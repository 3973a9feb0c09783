/-
Module: Freight.Store.Columns
Purpose: What an `UPDATE` of the changed columns leaves in a stored row: the
  attributes that were assigned, whether or not a column was written.
Trusted boundary: none
Main exports:
  ShipmentModel.Stored, ShipmentModel.stored_iff, Written, Written.patch, written_of_patch,
  ShipmentModel.Stored.applyTo, Server.rounding
-/
import Freight.Domain.Numbers
import Freight.Store.Entries

namespace Freight

section Columns

variable {postgres : Postgres}

theorem instant_timestamptz (value : DateTime) :
    (postgres.timestamptz value).instant postgres.localize =
      value.instant postgres.localize := by
  simp [Postgres.timestamptz]

@[simp] theorem Postgres.timestamptz_timestamptz (value : DateTime) :
    postgres.timestamptz (postgres.timestamptz value) = postgres.timestamptz value := by
  simp [Postgres.timestamptz]

@[simp] theorem Postgres.clock_clock (clock : Option DateTime) :
    (clock.map postgres.timestamptz).map postgres.timestamptz =
      clock.map postgres.timestamptz := by
  cases clock <;> simp

/-- Datetimes that Python finds equal are stored alike. -/
theorem Postgres.timestamptz_of_eq {first second : DateTime}
    (same : first.eq second = true) :
    postgres.timestamptz first = postgres.timestamptz second := by
  obtain ⟨firstWall, firstOffset⟩ := first
  obtain ⟨secondWall, secondOffset⟩ := second
  cases firstOffset <;> cases secondOffset <;>
    simp_all [DateTime.eq, Postgres.timestamptz, DateTime.instant]

/-- A row as the columns hand it back. -/
def ShipmentModel.Stored (row : ShipmentModel) (postgres : Postgres) : Prop :=
  postgres.shipmentRow row = row

theorem ShipmentModel.stored_shipmentRow (row : ShipmentModel) :
    (postgres.shipmentRow row).Stored postgres := by
  rw [ShipmentModel.Stored]
  simp only [Postgres.shipmentRow, postgres.float8_float8, Postgres.clock_clock,
    Postgres.timestamptz_timestamptz]

/-- The columns that the server converts. -/
structure ShipmentModel.Converted (row : ShipmentModel) (postgres : Postgres) : Prop where
  createdAt : postgres.timestamptz row.createdAt = row.createdAt
  updatedAt : postgres.timestamptz row.updatedAt = row.updatedAt
  currentLatitude : postgres.float8 row.currentLatitude = row.currentLatitude
  currentLongitude : postgres.float8 row.currentLongitude = row.currentLongitude
  lastLocationAt : row.lastLocationAt.map postgres.timestamptz = row.lastLocationAt
  lastLifecycleAt : row.lastLifecycleAt.map postgres.timestamptz = row.lastLifecycleAt

theorem ShipmentModel.stored_iff {row : ShipmentModel} :
    row.Stored postgres ↔ row.Converted postgres := by
  constructor
  · intro stored
    exact
      { createdAt := congrArg ShipmentModel.createdAt stored
        updatedAt := congrArg ShipmentModel.updatedAt stored
        currentLatitude := congrArg ShipmentModel.currentLatitude stored
        currentLongitude := congrArg ShipmentModel.currentLongitude stored
        lastLocationAt := congrArg ShipmentModel.lastLocationAt stored
        lastLifecycleAt := congrArg ShipmentModel.lastLifecycleAt stored }
  · rintro ⟨createdAt, updatedAt, latitude, longitude, location, lifecycle⟩
    rw [ShipmentModel.Stored, Postgres.shipmentRow, createdAt, updatedAt, latitude, longitude,
      location, lifecycle]

/-! ## One column -/

theorem changedColumn_getD {α : Type} [DecidableEq α] (loaded current : α) :
    (changedColumn (· == ·) loaded current).getD loaded = current := by
  by_cases same : loaded = current <;> simp [changedColumn, same]

/-- A column is left alone or set to the assigned value. -/
theorem changedColumn_getD_cases {α : Type} (same : α → α → Bool) (loaded value kept : α) :
    (changedColumn same loaded value).getD kept = kept ∨
      (changedColumn same loaded value).getD kept = value := by
  unfold changedColumn
  split
  · exact .inl rfl
  · exact .inr rfl

theorem changedColumn_map_getD_cases {α : Type} (convert : α → α) (same : α → α → Bool)
    (loaded value kept : α) :
    ((changedColumn same loaded value).map convert).getD kept = kept ∨
      ((changedColumn same loaded value).map convert).getD kept = convert value := by
  unfold changedColumn
  split
  · exact .inl rfl
  · exact .inr rfl

theorem timestamp_column {row loaded : DateTime} (kept : row = postgres.timestamptz loaded)
    (current : DateTime) :
    ((changedColumn DateTime.eq loaded current).map postgres.timestamptz).getD row =
      postgres.timestamptz current := by
  by_cases same : loaded.eq current = true
  · simp [changedColumn, same, ← Postgres.timestamptz_of_eq same, kept]
  · simp [changedColumn, same]

theorem clock_column {row loaded : Option DateTime}
    (kept : row = loaded.map postgres.timestamptz) (current : Option DateTime) :
    ((changedColumn optionalDateTimeEq loaded current).map
        (Option.map postgres.timestamptz)).getD row =
      current.map postgres.timestamptz := by
  subst kept
  cases loaded with
  | none => cases current <;> simp [changedColumn, optionalDateTimeEq]
  | some loaded =>
      cases current with
      | none => simp [changedColumn, optionalDateTimeEq]
      | some current =>
          by_cases same : loaded.eq current = true
          · simp [changedColumn, optionalDateTimeEq, same, ← Postgres.timestamptz_of_eq same]
          · simp [changedColumn, optionalDateTimeEq, same]

/-- Values that compare equal are stored as such. -/
theorem Postgres.float8_same {left right : Json} (same : left.Same right) :
    (postgres.float8 left).Same (postgres.float8 right) := by
  rcases same with rfl | equal
  · exact .refl _
  · exact postgres.float8_eq left right equal

/-- A coordinate: the assigned value, up to what Python's `==` tells apart. -/
theorem coordinate_column {row loaded : Json} (kept : row.Same (postgres.float8 loaded))
    (current : Json) :
    (((changedColumn Json.eq loaded current).map postgres.float8).getD row).Same
      (postgres.float8 current) := by
  by_cases same : loaded.eq current = true
  · have equal := kept.trans (postgres.float8_eq loaded current same)
    simpa [changedColumn, same] using equal
  · simp [changedColumn, same]

/-- A column that is written is stored, and so is one that is left alone. -/
theorem column_stored {α : Type} {convert : α → α}
    (settled : ∀ value, convert (convert value) = convert value) {row : α}
    (stored : convert row = row) (change : Option α) :
    convert ((change.map convert).getD row) = (change.map convert).getD row := by
  cases change with
  | none => exact stored
  | some value => exact settled value

/-- A coordinate that was not assigned keeps its value. -/
theorem coordinate_column_self {loaded : Json} (stored : postgres.float8 loaded = loaded) :
    ((changedColumn Json.eq loaded loaded).map postgres.float8).getD loaded = loaded := by
  by_cases same : loaded.eq loaded = true <;> simp [changedColumn, same, stored]

end Columns

/-! ## The row -/

/-- A stored row that holds the attributes of an object, up to what Python's `==`
tells apart. -/
structure Written (postgres : Postgres) (row model : ShipmentModel) : Prop where
  id : row.id = model.id
  referenceNumber : row.referenceNumber = model.referenceNumber
  origin : row.origin = model.origin
  destination : row.destination = model.destination
  carrier : row.carrier = model.carrier
  status : row.status = model.status
  createdAt : row.createdAt = postgres.timestamptz model.createdAt
  updatedAt : row.updatedAt = postgres.timestamptz model.updatedAt
  currentLatitude : row.currentLatitude.Same (postgres.float8 model.currentLatitude)
  currentLongitude : row.currentLongitude.Same (postgres.float8 model.currentLongitude)
  lastLocationAt : row.lastLocationAt = model.lastLocationAt.map postgres.timestamptz
  lastLifecycleAt : row.lastLifecycleAt = model.lastLifecycleAt.map postgres.timestamptz

section Rows

variable {postgres : Postgres} {row model : ShipmentModel}

/-- A row holds what it was loaded as. -/
theorem written_self (stored : row.Stored postgres) : Written postgres row row := by
  obtain ⟨createdAt, updatedAt, latitude, longitude, location, lifecycle⟩ :=
    ShipmentModel.stored_iff.mp stored
  exact
    { id := rfl
      referenceNumber := rfl
      origin := rfl
      destination := rfl
      carrier := rfl
      status := rfl
      createdAt := createdAt.symm
      updatedAt := updatedAt.symm
      currentLatitude := .inl latitude.symm
      currentLongitude := .inl longitude.symm
      lastLocationAt := location.symm
      lastLifecycleAt := lifecycle.symm }

/-- An update of a row that holds what an object was loaded with makes it hold what the
object is assigned. -/
theorem Written.patch {loaded : ShipmentModel} (written : Written postgres row loaded)
    (same : loaded.id = model.id) :
    Written postgres
      ((postgres.shipmentPatch (ShipmentPatch.between loaded model)).applyTo row) model where
  id := written.id.trans same
  referenceNumber := by
    change (changedColumn _ _ _).getD _ = _
    rw [written.referenceNumber, changedColumn_getD]
  origin := by
    change (changedColumn _ _ _).getD _ = _
    rw [written.origin, changedColumn_getD]
  destination := by
    change (changedColumn _ _ _).getD _ = _
    rw [written.destination, changedColumn_getD]
  carrier := by
    change (changedColumn _ _ _).getD _ = _
    rw [written.carrier, changedColumn_getD]
  status := by
    change (changedColumn _ _ _).getD _ = _
    rw [written.status, changedColumn_getD]
  createdAt := timestamp_column written.createdAt _
  updatedAt := timestamp_column written.updatedAt _
  currentLatitude := coordinate_column written.currentLatitude _
  currentLongitude := coordinate_column written.currentLongitude _
  lastLocationAt := clock_column written.lastLocationAt _
  lastLifecycleAt := clock_column written.lastLifecycleAt _

/-- The row after an update holds the assigned attributes. -/
theorem written_of_patch (stored : row.Stored postgres) (same : row.id = model.id) :
    Written postgres
      ((postgres.shipmentPatch (ShipmentPatch.between row model)).applyTo row) model :=
  (written_self stored).patch same

/-- A row is stored after any update. -/
theorem ShipmentModel.Stored.applyTo (stored : row.Stored postgres) (patch : ShipmentPatch) :
    ((postgres.shipmentPatch patch).applyTo row).Stored postgres := by
  have columns := ShipmentModel.stored_iff.mp stored
  apply ShipmentModel.stored_iff.mpr
  exact
    { createdAt := column_stored Postgres.timestamptz_timestamptz columns.createdAt _
      updatedAt := column_stored Postgres.timestamptz_timestamptz columns.updatedAt _
      currentLatitude := column_stored postgres.float8_float8 columns.currentLatitude _
      currentLongitude := column_stored postgres.float8_float8 columns.currentLongitude _
      lastLocationAt := column_stored Postgres.clock_clock columns.lastLocationAt _
      lastLifecycleAt := column_stored Postgres.clock_clock columns.lastLifecycleAt _ }

end Rows

/-! ## A column that rounds -/

/-- A `Float` column that rounds the first integer that is not a binary64 number. -/
def Postgres.rounding : Postgres where
  localize wall := wall
  float8 value :=
    if value.eq (.int 9007199254740993) then .float (.finite false 4503599627370496 1)
    else value
  varchar value := value
  float8_float8 := by
    intro value
    by_cases odd : value.eq (.int 9007199254740993) = true
    · rw [if_pos odd]
      decide
    · rw [if_neg odd, if_neg odd]
  float8_eq := by
    intro left right equal
    by_cases odd : left.eq (.int 9007199254740993) = true
    · rw [if_pos odd, if_pos (Json.eq_trans (Json.eq_symm equal) odd)]
      exact Json.Same.refl _
    · have other : ¬ right.eq (.int 9007199254740993) = true := fun rounded =>
        odd (Json.eq_trans equal rounded)
      rw [if_neg odd, if_neg other]
      exact .inr equal
  varchar_str := utc.varchar_str

/-- A server over such columns whose environment raises nothing. -/
def Server.rounding : Server where
  postgres := .rounding
  faults _ := false

end Freight
