/-
Module: Freight.Proofs.UndecodableMessages
Purpose: When a message that cannot be decoded is recognised as invalid, and so goes to the
  dead-letter queue without a retry: unless an identifier is of a type that `UUID` has no
  method of.
Trusted boundary: none
Main exports:
  Decoders.RaiseValueErrors, Caught, Guarded, ShipmentEventMessage.MistypedIdentifier,
  ShipmentEventMessage.decode_guarded, ShipmentEventMessage.fromJson_mistyped,
  ShipmentEventMessage.fromJson_typed, DeadLettered, undecodable_is_invalid_iff
-/
import Freight.Messaging.Channel
import Freight.Proofs.DeliverySettlement

namespace Freight

open Consumer (attemptCount deliver headersOf)

/-! ## What the decoder catches -/

/-- `json.loads` raises nothing but `ValueError`s: a `JSONDecodeError`, or a
`UnicodeDecodeError`. -/
def Decoders.RaiseValueErrors (decoders : Decoders) : Prop :=
  ∀ body error, decoders.loads body = .error error →
    ∃ name text, error = .valueError name text

/-- What the `except` clause of `from_json` lists. -/
def Caught : PyError → Prop
  | .exception name _ => name = "KeyError"
  | .typeError _ | .valueError _ _ => True
  | _ => False

/-- A computation that raises what the clause lists, if anything. -/
def Guarded {α : Type} (result : Except PyError α) : Prop :=
  ∀ error, result = .error error → Caught error

theorem Guarded.ok {α : Type} (value : α) : Guarded (.ok value : Except PyError α) := by
  intro error raised
  cases raised

theorem Guarded.error {α : Type} {error : PyError} (caught : Caught error) :
    Guarded (.error error : Except PyError α) := by
  intro other raised
  cases raised
  exact caught

theorem Guarded.bind {α β : Type} {first : Except PyError α} {next : α → Except PyError β}
    (guarded : Guarded first) (rest : ∀ value, first = .ok value → Guarded (next value)) :
    Guarded (first >>= next) := by
  cases first with
  | error error => exact .error (guarded error rfl)
  | ok value => exact rest value rfl

namespace ShipmentEventMessage

variable {decoders : Decoders} {body : Bytes} {data value : Json} {key : String}

theorem guarded_item (data : Json) (key : String) : Guarded (item data key) := by
  cases data with
  | obj fields =>
      simp only [item]
      cases fields.lookup key with
      | none => exact .error rfl
      | some value => exact .ok value
  | _ => exact .error trivial

/-- Only an object has items under keys. -/
theorem item_ok (found : item data key = .ok value) :
    ∃ fields, data = .obj fields ∧ fields.lookup key = some value := by
  cases data with
  | obj fields =>
      simp only [item] at found
      cases present : fields.lookup key with
      | none => simp [present] at found
      | some other =>
          simp only [present, Except.ok.injEq] at found
          exact ⟨fields, rfl, found ▸ present⟩
  | _ => cases found

theorem item_obj_iff {fields : List (String × Json)} :
    item (.obj fields) key = .ok value ↔ fields.lookup key = some value := by
  simp only [item]
  cases fields.lookup key <;> simp

/-- A value that is neither a string nor `None`. -/
def Mistyped (value : Json) : Prop := value ≠ .null ∧ ∀ text, value ≠ .str text

theorem guarded_uuidOf (typed : ¬ Mistyped value) : Guarded (uuidOf decoders value) := by
  cases value with
  | null => exact .error trivial
  | str text =>
      simp only [uuidOf]
      cases decoders.uuid text with
      | none => exact .error trivial
      | some id => exact .ok id
  | _ => exact absurd ⟨by simp, by simp⟩ typed

/-- `UUID` of such a value raises an `AttributeError`. -/
theorem uuidOf_mistyped (mistyped : Mistyped value) :
    uuidOf decoders value =
      .error (.exception "AttributeError" "object has no attribute 'replace'") := by
  cases value with
  | null => exact absurd rfl mistyped.1
  | str text => exact absurd rfl (mistyped.2 text)
  | _ => rfl

theorem uuidOf_str {text : String} {id : UUID} (known : decoders.uuid text = some id) :
    uuidOf decoders (.str text) = .ok id := by
  simp only [uuidOf, known]

theorem guarded_eventTypeOf (value : Json) : Guarded (eventTypeOf value) := by
  cases value with
  | str text =>
      simp only [eventTypeOf]
      cases ShipmentEventType.ofValue text with
      | none => exact .error trivial
      | some eventType => exact .ok eventType
  | _ => exact .error trivial

theorem guarded_datetimeOf (value : Json) : Guarded (datetimeOf decoders value) := by
  cases value with
  | str text =>
      simp only [datetimeOf]
      cases decoders.fromisoformat text with
      | none => exact .error trivial
      | some datetime => exact .ok datetime
  | _ => exact .error trivial

/-- The identifiers in the order in which they are read. -/
def identifierKeys : List String := ["message_id", "event_id", "shipment_id"]

/-- A body of the right version, with an object for a payload, in which the first
identifier that is no UUID is neither a string nor null. -/
def MistypedIdentifier (decoders : Decoders) (body : Bytes) : Prop :=
  ∃ fields payload earlier key later value,
    decoders.loads body = .ok (.obj fields) ∧
    fields.lookup "contract_version" = some (.str Freight.contractVersion) ∧
    fields.lookup "payload" = some (.obj payload) ∧
    identifierKeys = earlier ++ key :: later ∧
    (∀ other ∈ earlier, ∃ text id, fields.lookup other = some (.str text) ∧
      decoders.uuid text = some id) ∧
    fields.lookup key = some value ∧ Mistyped value

theorem uuidOf_ok {id : UUID} (decoded : uuidOf decoders value = .ok id) :
    ∃ text, value = .str text ∧ decoders.uuid text = some id := by
  cases value with
  | str text =>
      simp only [uuidOf] at decoded
      cases known : decoders.uuid text with
      | none => simp [known] at decoded
      | some other =>
          simp only [known, Except.ok.injEq] at decoded
          exact ⟨text, rfl, decoded ▸ known⟩
  | _ => cases decoded

/-- Without such an identifier the clause catches whatever decoding raises. -/
theorem decode_guarded (reads : decoders.RaiseValueErrors)
    (typed : ¬ MistypedIdentifier decoders body) : Guarded (decode decoders body) := by
  unfold decode
  refine .bind ?_ ?_
  · intro error raised
    obtain ⟨name, text, rfl⟩ := reads body error raised
    trivial
  intro data loaded
  refine .bind (guarded_item data _) ?_
  intro version versioned
  obtain ⟨fields, rfl, versionField⟩ := item_ok versioned
  split
  · exact .error trivial
  rename_i current
  have version := not_not.mp current
  subst version
  refine .bind (guarded_item _ _) ?_
  intro payload payloadItem
  split
  · exact .error trivial
  rename_i object
  obtain ⟨entries, rfl⟩ : ∃ entries, payload = .obj entries := by
    cases payload with
    | obj entries => exact ⟨entries, rfl⟩
    | _ => exact absurd rfl object
  -- an identifier after others that are all right
  have identifier : ∀ earlier key later value, identifierKeys = earlier ++ key :: later →
      (∀ other ∈ earlier, ∃ text id, fields.lookup other = some (.str text) ∧
        decoders.uuid text = some id) →
      item (.obj fields) key = .ok value → Guarded (uuidOf decoders value) := by
    intro earlier key later value keys before found
    refine guarded_uuidOf fun mistyped => typed ?_
    exact ⟨fields, entries, earlier, key, later, value, loaded, versionField,
      item_obj_iff.mp payloadItem, keys, before, item_obj_iff.mp found, mistyped⟩
  have readable : ∀ {key value id}, item (.obj fields) key = .ok value →
      uuidOf decoders value = .ok id → ∃ text id, fields.lookup key = some (.str text) ∧
        decoders.uuid text = some id := by
    intro key value id found decoded
    obtain ⟨text, rfl, known⟩ := uuidOf_ok decoded
    exact ⟨text, id, item_obj_iff.mp found, known⟩
  refine .bind (guarded_item _ _) fun messageValue messageItem => ?_
  refine .bind (identifier [] _ _ _ rfl (by simp) messageItem) fun messageId messageDecoded => ?_
  have message := readable messageItem messageDecoded
  refine .bind (guarded_item _ _) fun eventValue eventItem => ?_
  refine .bind (identifier ["message_id"] _ _ _ rfl (List.forall_mem_singleton.mpr message)
    eventItem) fun eventId eventDecoded => ?_
  have event := readable eventItem eventDecoded
  refine .bind (guarded_item _ _) fun shipmentValue shipmentItem => ?_
  refine .bind (identifier ["message_id", "event_id"] _ _ _ rfl
    (List.forall_mem_cons.mpr ⟨message, List.forall_mem_singleton.mpr event⟩) shipmentItem)
    fun _ _ => ?_
  refine .bind (guarded_item _ _) fun _ _ => ?_
  refine .bind (guarded_eventTypeOf _) fun _ _ => ?_
  refine .bind (guarded_item _ _) fun _ _ => ?_
  refine .bind (guarded_item _ _) fun _ _ => ?_
  refine .bind (guarded_datetimeOf _) fun _ _ => ?_
  refine .bind (guarded_item _ _) fun _ _ => ?_
  refine .bind (guarded_datetimeOf _) fun _ _ => ?_
  exact .ok _

/-- Such an identifier gets an `AttributeError` through. -/
theorem fromJson_mistyped (mistyped : MistypedIdentifier decoders body) :
    fromJson decoders body =
      .error (.exception "AttributeError" "object has no attribute 'replace'") := by
  obtain ⟨fields, payload, earlier, key, later, value, loaded, version, object, keys, before,
    field, mistyped⟩ := mistyped
  have raised : uuidOf decoders value = _ := uuidOf_mistyped mistyped
  have decoded : decode decoders body =
      .error (.exception "AttributeError" "object has no attribute 'replace'") := by
    unfold decode
    rw [loaded]
    change (item (.obj fields) "contract_version" >>= _) = _
    rw [item_obj_iff.mpr version]
    change (item (.obj fields) "payload" >>= _) = _
    rw [item_obj_iff.mpr object]
    change (item (.obj fields) "message_id" >>= _) = _
    cases earlier with
    | nil =>
        obtain ⟨rfl, -⟩ := List.cons.inj keys
        rw [item_obj_iff.mpr field]
        change (uuidOf decoders value >>= _) = _
        rw [raised]
        rfl
    | cons first earlier =>
        obtain ⟨rfl, afterFirst⟩ := List.cons.inj keys
        obtain ⟨firstText, firstId, firstField, firstKnown⟩ := before _ List.mem_cons_self
        rw [item_obj_iff.mpr firstField]
        change (uuidOf decoders (.str firstText) >>= _) = _
        rw [uuidOf_str firstKnown]
        change (item (.obj fields) "event_id" >>= _) = _
        cases earlier with
        | nil =>
            obtain ⟨rfl, -⟩ := List.cons.inj afterFirst
            rw [item_obj_iff.mpr field]
            change (uuidOf decoders value >>= _) = _
            rw [raised]
            rfl
        | cons second earlier =>
            obtain ⟨rfl, afterSecond⟩ := List.cons.inj afterFirst
            obtain ⟨secondText, secondId, secondField, secondKnown⟩ :=
              before _ (List.mem_cons_of_mem _ List.mem_cons_self)
            rw [item_obj_iff.mpr secondField]
            change (uuidOf decoders (.str secondText) >>= _) = _
            rw [uuidOf_str secondKnown]
            change (item (.obj fields) "shipment_id" >>= _) = _
            cases earlier with
            | nil =>
                obtain ⟨rfl, -⟩ := List.cons.inj afterSecond
                rw [item_obj_iff.mpr field]
                change (uuidOf decoders value >>= _) = _
                rw [raised]
                rfl
            | cons third earlier => simp at afterSecond
  rw [fromJson, decoded]
  simp

/-- Otherwise what `from_json` raises is its own `ValueError`. -/
theorem fromJson_typed (reads : decoders.RaiseValueErrors)
    (typed : ¬ MistypedIdentifier decoders body) {error : PyError}
    (raised : fromJson decoders body = .error error) :
    error = .value "Invalid shipment-event message." := by
  have guarded := decode_guarded reads typed
  unfold fromJson at raised
  split at raised
  · cases raised
  · exact (Except.error.inj raised).symm
  · exact (Except.error.inj raised).symm
  · exact (Except.error.inj raised).symm
  · rename_i other notKey notType notValue decoded
    have caught := guarded _ decoded
    cases other with
    | exception name text =>
        cases caught
        exact absurd rfl (notKey text)
    | typeError text => exact absurd rfl (notType text)
    | valueError name text => exact absurd rfl (notValue name text)
    | _ => cases caught

end ShipmentEventMessage

/-! ## What becomes of the message -/

/-- A delivery has ended with one publication to the dead-letter exchange and its
acknowledgement. -/
def DeadLettered (consumer : RabbitMQShipmentEventConsumer) (channel : Channel)
    (deliveryTag : Nat) (body : Bytes) (final : Except PyError Unit × Channel) : Prop :=
  ∃ republication : Consumer.Republication,
    republication.exchange = consumer.deadLetterExchange ∧
    republication.routingKey = deadLetterRoutingKey ∧ republication.message.body = body ∧
    final = (.ok (),
      (channel.perform (.published republication)).perform (.acknowledged deliveryTag))

/-- `from_json` raises `ValueError`s only, and a body with which it raises goes straight to
the dead-letter exchange, if and only if no identifier of it is mistyped. -/
theorem undecodable_is_invalid_iff (decoders : Decoders) (reads : decoders.RaiseValueErrors)
    (body : Bytes) :
    (∀ error, ShipmentEventMessage.fromJson decoders body = .error error →
        (∃ name text, error = .valueError name text) ∧ classify error = .deadLetter ∧
        ∀ (consumer : RabbitMQShipmentEventConsumer) (channel : Channel) (deliveryTag : Nat)
          (properties : BasicProperties) (count : Int),
          attemptCount (headersOf (some properties)) = .ok count →
          DeadLettered consumer channel deliveryTag body
            (deliver consumer decoders channel deliveryTag body (some properties))) ↔
      ¬ ShipmentEventMessage.MistypedIdentifier decoders body := by
  constructor
  · intro invalid mistyped
    obtain ⟨⟨name, text, same⟩, -⟩ :=
      invalid _ (ShipmentEventMessage.fromJson_mistyped mistyped)
    cases same
  · intro typed error raised
    obtain rfl := ShipmentEventMessage.fromJson_typed reads typed raised
    refine ⟨⟨_, _, rfl⟩, rfl, ?_⟩
    intro consumer channel deliveryTag properties count readable
    have failed : Consumer.attempt decoders channel body properties =
        .error (.value "Invalid shipment-event message.") := by
      rw [Consumer.attempt, raised]
      rfl
    have classified : ¬ (classify (.value "Invalid shipment-event message.") = .retry ∧
        count < consumer.maxAttempts) := fun retry => by cases retry.1
    refine ⟨Consumer.republication consumer
      (some (Consumer.identified properties channel.uuid)) (headersOf (some properties)) body
      count channel.now (.value "Invalid shipment-event message."), ?_, ?_, ?_, ?_⟩
    · simp only [Consumer.republication, if_neg classified]
    · simp only [Consumer.republication, if_neg classified]
    · simp only [Consumer.republication, if_neg classified]
    · rw [Consumer.deliver_eq]
      simp only [Option.getD_some, failed, readable]

/-! ## An identifier that is a number -/

/-- A body whose message id is a number. -/
def numberedBody : Bytes :=
  Consumer.ascii
    "\x7b\"contract_version\":\"v1\",\"message_id\":5,\"payload\":\x7b\x7d\x7d"

/-- Readers to which every other body is not JSON. -/
def numberedDecoders : Decoders where
  loads body :=
    if body = numberedBody then
      .ok (.obj [("contract_version", .str "v1"), ("message_id", .int 5), ("payload", .obj [])])
    else .error (.valueError "JSONDecodeError" "Expecting value: line 1 column 1 (char 0)")
  uuid _ := none
  fromisoformat _ := none

theorem numberedDecoders_reads : numberedDecoders.RaiseValueErrors := by
  intro body error raised
  simp only [numberedDecoders] at raised
  split at raised
  · cases raised
  · cases raised
    exact ⟨_, _, rfl⟩

/-- A body that is not JSON is invalid. -/
theorem unparsed_is_invalid :
    ∃ error, ShipmentEventMessage.fromJson numberedDecoders (Consumer.ascii "not-json") =
        .error error ∧
      (∃ name text, error = .valueError name text) ∧ classify error = .deadLetter := by
  have unread : numberedDecoders.loads (Consumer.ascii "not-json") =
      .error (.valueError "JSONDecodeError" "Expecting value: line 1 column 1 (char 0)") := by
    decide +kernel
  have typed : ¬ ShipmentEventMessage.MistypedIdentifier numberedDecoders
      (Consumer.ascii "not-json") := by
    intro mistyped
    obtain ⟨fields, payload, earlier, key, later, value, loaded, -⟩ := mistyped
    rw [unread] at loaded
    cases loaded
  obtain ⟨error, raised⟩ : ∃ error,
      ShipmentEventMessage.fromJson numberedDecoders (Consumer.ascii "not-json") =
        .error error := by
    simp only [ShipmentEventMessage.fromJson, ShipmentEventMessage.decode, unread]
    exact ⟨_, rfl⟩
  obtain ⟨invalid, classified, -⟩ :=
    (undecodable_is_invalid_iff numberedDecoders numberedDecoders_reads _).mpr typed error raised
  exact ⟨error, raised, invalid, classified⟩

/-- The number gets an `AttributeError` through, and the message is retried. -/
theorem numbered_identifier_retried :
    ¬ ∀ body error, ShipmentEventMessage.fromJson numberedDecoders body = .error error →
        (∃ name text, error = .valueError name text) ∧ classify error = .deadLetter := by
  intro claim
  have raised : ShipmentEventMessage.fromJson numberedDecoders numberedBody =
      .error (.exception "AttributeError" "object has no attribute 'replace'") := by
    decide +kernel
  obtain ⟨-, classified⟩ := claim _ _ raised
  cases classified

end Freight
