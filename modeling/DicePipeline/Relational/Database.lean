import Mathlib.Data.List.Nodup
import Mathlib.Data.Nat.Notation

/-!
# Databases that keep their constraints

A `Schema` says what the rows of a database are: the primary key of a row, the
keys it refers to, the values no other row may share, and the checks on its
columns.  A `Database` is a list of rows that meets all of these, so a database
that does not cannot be built.

* `Database.insert`, `Database.update` and `Database.delete` are the statements.
  Each is refused, or gives a database again.
* `Falls db key other` says that the row at `other` is deleted with the one at
  `key`: it is that row, or refers by a `CASCADE` to one that is.  `collect`
  computes these keys (`mem_collect_iff`), and a delete removes their rows and
  no others (`mem_of_delete`).  A row that refers to one of them by a `PROTECT`
  stops the delete.
-/

namespace DicePipeline.Relational

/-- What a reference asks for when the row it leads to is deleted. -/
inductive OnDelete where
  | cascade
  | protect
  deriving DecidableEq, Repr

/-- What the rows of a database are. -/
structure Schema (Row Key Mark : Type) where
  /-- The primary key. -/
  key : Row → Key
  /-- The foreign keys. -/
  references : Row → List (Key × OnDelete)
  /-- The values that no two rows share. -/
  marks : Row → List Mark
  /-- The columns can hold the values. -/
  fits : Row → Bool
  /-- The check constraints. -/
  checks : Row → Bool

/-- Why a statement is refused. -/
inductive Refused where
  | data
  | integrity
  | protectedRow
  deriving DecidableEq, Repr

/-- Rows that meet the constraints of their schema. -/
structure Database {Row Key Mark : Type} (schema : Schema Row Key Mark) where
  rows : List Row
  keys : (rows.map schema.key).Nodup
  marks : ∀ a ∈ rows, ∀ b ∈ rows, schema.key a ≠ schema.key b →
    ∀ mark ∈ schema.marks a, mark ∉ schema.marks b
  references : ∀ row ∈ rows, ∀ reference ∈ schema.references row,
    ∃ target ∈ rows, schema.key target = reference.1
  fits : ∀ row ∈ rows, schema.fits row = true
  checks : ∀ row ∈ rows, schema.checks row = true

namespace Database

variable {Row Key Mark : Type} {schema : Schema Row Key Mark}
variable {db db' : Database schema} {row other : Row} {key : Key}

/-- No rows. -/
def empty (schema : Schema Row Key Mark) : Database schema where
  rows := []
  keys := List.nodup_nil
  marks := fun _ member => absurd member List.not_mem_nil
  references := fun _ member => absurd member List.not_mem_nil
  fits := fun _ member => absurd member List.not_mem_nil
  checks := fun _ member => absurd member List.not_mem_nil

@[simp] theorem rows_empty : (empty schema).rows = [] := rfl

/-- A key has one row. -/
theorem eq_of_key (inRows : row ∈ db.rows) (otherIn : other ∈ db.rows)
    (same : schema.key row = schema.key other) : row = other :=
  List.inj_on_of_nodup_map db.keys inRows otherIn same

/-- A value that is not shared has one row. -/
theorem eq_of_mark (mark : Mark) (inRows : row ∈ db.rows) (otherIn : other ∈ db.rows)
    (own : mark ∈ schema.marks row) (shared : mark ∈ schema.marks other) : row = other := by
  classical
  by_contra different
  exact db.marks row inRows other otherIn
    (fun same => different (eq_of_key inRows otherIn same)) mark own shared

variable [DecidableEq Key]

/-! ## Looking a row up -/

/-- The row at a key. -/
def row? (db : Database schema) (key : Key) : Option Row :=
  db.rows.find? fun row => schema.key row = key

theorem row?_eq_some_iff : db.row? key = some row ↔ row ∈ db.rows ∧ schema.key row = key := by
  constructor
  · intro found
    exact ⟨List.mem_of_find?_eq_some found, by simpa using List.find?_some found⟩
  · rintro ⟨inRows, rfl⟩
    cases found : db.row? (schema.key row) with
    | none =>
      have absent := List.find?_eq_none.mp found row inRows
      simp at absent
    | some other =>
      have same : schema.key other = schema.key row := by simpa using List.find?_some found
      rw [eq_of_key (List.mem_of_find?_eq_some found) inRows same]

theorem row?_eq_none_iff : db.row? key = none ↔ ∀ row ∈ db.rows, schema.key row ≠ key := by
  unfold row?
  rw [List.find?_eq_none]
  simp

/-! ## Inserting and updating a row -/

/-- The rows with `row` at its key. -/
def replaced (schema : Schema Row Key Mark) (row : Row) (rows : List Row) : List Row :=
  rows.map fun other => if schema.key other = schema.key row then row else other

theorem mem_replaced {rows : List Row} : other ∈ replaced schema row rows ↔
    (other ∈ rows ∧ schema.key other ≠ schema.key row) ∨
      (other = row ∧ ∃ old ∈ rows, schema.key old = schema.key row) := by
  unfold replaced
  rw [List.mem_map]
  constructor
  · rintro ⟨old, inRows, rfl⟩
    by_cases same : schema.key old = schema.key row
    · rw [if_pos same]
      exact .inr ⟨rfl, old, inRows, same⟩
    · rw [if_neg same]
      exact .inl ⟨inRows, same⟩
  · rintro (⟨inRows, different⟩ | ⟨rfl, old, inRows, same⟩)
    · exact ⟨other, inRows, if_neg different⟩
    · exact ⟨old, inRows, if_pos same⟩

theorem map_key_replaced (rows : List Row) :
    (replaced schema row rows).map schema.key = rows.map schema.key := by
  unfold replaced
  rw [List.map_map]
  refine List.map_congr_left fun other _ => ?_
  show schema.key (if schema.key other = schema.key row then row else other) = schema.key other
  split
  · exact (‹schema.key other = schema.key row›).symm
  · rfl

section Write

variable [DecidableEq Mark]

/-- A new row meets the constraints. -/
def Admits (db : Database schema) (row : Row) : Prop :=
  schema.checks row = true ∧ (∀ other ∈ db.rows, schema.key other ≠ schema.key row) ∧
    (∀ other ∈ db.rows, ∀ mark ∈ schema.marks row, mark ∉ schema.marks other) ∧
    ∀ reference ∈ schema.references row, ∃ target ∈ db.rows, schema.key target = reference.1

instance (db : Database schema) (row : Row) : Decidable (db.Admits row) :=
  inferInstanceAs (Decidable (_ ∧ _ ∧ _ ∧ _))

/-- `INSERT`. -/
def insert (db : Database schema) (row : Row) : Except Refused (Database schema) :=
  if fits : schema.fits row = true then
    if admits : db.Admits row then
      .ok {
        rows := row :: db.rows
        keys := by
          rw [List.map_cons, List.nodup_cons]
          refine ⟨?_, db.keys⟩
          intro member
          obtain ⟨other, inRows, same⟩ := List.mem_map.mp member
          exact admits.2.1 other inRows same
        marks := by
          intro a isA b isB different mark own shared
          rcases List.mem_cons.mp isA with rfl | oldA
          · rcases List.mem_cons.mp isB with rfl | oldB
            · exact different rfl
            · exact admits.2.2.1 b oldB mark own shared
          · rcases List.mem_cons.mp isB with rfl | oldB
            · exact admits.2.2.1 a oldA mark shared own
            · exact db.marks a oldA b oldB different mark own shared
        references := by
          intro any member reference refers
          have found : ∃ target ∈ db.rows, schema.key target = reference.1 := by
            rcases List.mem_cons.mp member with rfl | old
            · exact admits.2.2.2 reference refers
            · exact db.references any old reference refers
          obtain ⟨target, inRows, same⟩ := found
          exact ⟨target, List.mem_cons_of_mem _ inRows, same⟩
        fits := by
          intro any member
          rcases List.mem_cons.mp member with rfl | old
          · exact fits
          · exact db.fits any old
        checks := by
          intro any member
          rcases List.mem_cons.mp member with rfl | old
          · exact admits.1
          · exact db.checks any old }
    else .error .integrity
  else .error .data

/-- What an insert that succeeds has done. -/
theorem insert_eq_ok (inserted : db.insert row = .ok db') :
    db'.rows = row :: db.rows ∧ schema.fits row = true ∧ db.Admits row := by
  unfold insert at inserted
  split at inserted
  · split at inserted
    · cases inserted
      exact ⟨rfl, ‹_›, ‹_›⟩
    · cases inserted
  · cases inserted

/-- The row at the key of `row` may become `row`. -/
def Allows (db : Database schema) (row : Row) : Prop :=
  schema.checks row = true ∧
    (∀ other ∈ db.rows, schema.key other ≠ schema.key row →
      ∀ mark ∈ schema.marks row, mark ∉ schema.marks other) ∧
    ∀ reference ∈ schema.references row, ∃ target ∈ db.rows, schema.key target = reference.1

instance (db : Database schema) (row : Row) : Decidable (db.Allows row) :=
  inferInstanceAs (Decidable (_ ∧ _ ∧ _))

/-- `UPDATE` of the row at the key of `row`.  Without such a row it changes nothing. -/
def update (db : Database schema) (row : Row) : Except Refused (Database schema) :=
  if fits : schema.fits row = true then
    if allows : db.Allows row then
      .ok {
        rows := replaced schema row db.rows
        keys := by
          rw [map_key_replaced]
          exact db.keys
        marks := by
          intro a isA b isB different mark own shared
          rcases mem_replaced.mp isA with ⟨oldA, otherA⟩ | ⟨rfl, -⟩
          · rcases mem_replaced.mp isB with ⟨oldB, -⟩ | ⟨rfl, -⟩
            · exact db.marks a oldA b oldB different mark own shared
            · exact allows.2.1 a oldA otherA mark shared own
          · rcases mem_replaced.mp isB with ⟨oldB, otherB⟩ | ⟨rfl, -⟩
            · exact allows.2.1 b oldB otherB mark own shared
            · exact different rfl
        references := by
          intro any member reference refers
          have found : ∃ target ∈ db.rows, schema.key target = reference.1 := by
            rcases mem_replaced.mp member with ⟨old, -⟩ | ⟨rfl, -⟩
            · exact db.references any old reference refers
            · exact allows.2.2 reference refers
          obtain ⟨target, inRows, same⟩ := found
          by_cases changed : schema.key target = schema.key row
          · exact ⟨row, mem_replaced.mpr (.inr ⟨rfl, target, inRows, changed⟩),
              changed.symm.trans same⟩
          · exact ⟨target, mem_replaced.mpr (.inl ⟨inRows, changed⟩), same⟩
        fits := by
          intro any member
          rcases mem_replaced.mp member with ⟨old, -⟩ | ⟨rfl, -⟩
          · exact db.fits any old
          · exact fits
        checks := by
          intro any member
          rcases mem_replaced.mp member with ⟨old, -⟩ | ⟨rfl, -⟩
          · exact db.checks any old
          · exact allows.1 }
    else .error .integrity
  else .error .data

/-- What an update that succeeds has done. -/
theorem update_eq_ok (updated : db.update row = .ok db') :
    db'.rows = replaced schema row db.rows := by
  unfold update at updated
  split at updated
  · split at updated
    · cases updated
      rfl
    · cases updated
  · cases updated

end Write

/-! ## Deleting a row -/

/-- The row refers to one of these by a `CASCADE`. -/
def Hangs (schema : Schema Row Key Mark) (fallen : List Key) (row : Row) : Prop :=
  ∃ reference ∈ schema.references row, reference.2 = .cascade ∧ reference.1 ∈ fallen

instance (fallen : List Key) (row : Row) : Decidable (Hangs schema fallen row) :=
  inferInstanceAs (Decidable (∃ reference ∈ schema.references row, _))

/-- The keys that fall with these, among the rows that are left. -/
def collect (schema : Schema Row Key Mark) : ℕ → List Row → List Key → List Key
  | 0, _, fallen => fallen
  | bound + 1, left, fallen =>
      match left.filter (Hangs schema fallen ·) with
      | [] => fallen
      | next => collect schema bound (left.filter (¬ Hangs schema fallen ·))
          (next.map schema.key ++ fallen)

/-- The row at `other` is deleted with the one at `key`. -/
inductive Falls (db : Database schema) (key : Key) : Key → Prop
  | self : Falls db key key
  | cascade {row : Row} {target : Key} : row ∈ db.rows →
      (target, .cascade) ∈ schema.references row → Falls db key target →
      Falls db key (schema.key row)

omit [DecidableEq Key] in
/-- A row falls if it is the one deleted, or if one that it refers to falls. -/
theorem falls_iff (inRows : row ∈ db.rows) : Falls db key (schema.key row) ↔
    schema.key row = key ∨
      ∃ target, (target, .cascade) ∈ schema.references row ∧ Falls db key target := by
  constructor
  · intro falls
    generalize isKey : schema.key row = found at falls
    cases falls with
    | self => exact .inl rfl
    | cascade otherIn refers targetFalls =>
      obtain rfl := eq_of_key inRows otherIn isKey
      exact .inr ⟨_, refers, targetFalls⟩
  · rintro (rfl | ⟨target, refers, targetFalls⟩)
    · exact .self
    · exact .cascade inRows refers targetFalls

/-- What is collected falls. -/
theorem falls_of_mem_collect {bound : ℕ} {left : List Row} {fallen : List Key} {found : Key}
    (inRows : ∀ row ∈ left, row ∈ db.rows) (falls : ∀ any ∈ fallen, Falls db key any)
    (member : found ∈ collect schema bound left fallen) : Falls db key found := by
  induction bound generalizing left fallen with
  | zero => exact falls found member
  | succ bound ih =>
    unfold collect at member
    split at member
    · exact falls found member
    · refine ih (fun row kept => inRows row (List.mem_of_mem_filter kept)) ?_ member
      intro any isAny
      rcases List.mem_append.mp isAny with new | old
      · obtain ⟨row, isNext, rfl⟩ := List.mem_map.mp new
        obtain ⟨inLeft, hangs⟩ := List.mem_filter.mp isNext
        obtain ⟨reference, refers, isCascade, onFallen⟩ := of_decide_eq_true hangs
        obtain ⟨target, onDelete⟩ := reference
        obtain rfl : onDelete = .cascade := isCascade
        exact .cascade (inRows row inLeft) refers (falls target onFallen)
      · exact falls any old

theorem mem_collect_of_mem {bound : ℕ} {left : List Row} {fallen : List Key} {found : Key}
    (member : found ∈ fallen) : found ∈ collect schema bound left fallen := by
  induction bound generalizing left fallen with
  | zero => exact member
  | succ bound ih =>
    unfold collect
    split
    · exact member
    · exact ih (List.mem_append_right _ member)

/-- The rows that are not collected do not hang on what is. -/
theorem closed_collect {bound : ℕ} {left : List Row} {fallen : List Key}
    (enough : left.length ≤ bound) (inLeft : row ∈ left)
    (hangs : Hangs schema (collect schema bound left fallen) row) :
    schema.key row ∈ collect schema bound left fallen := by
  induction bound generalizing left fallen with
  | zero =>
    obtain rfl := List.eq_nil_of_length_eq_zero (Nat.le_zero.mp enough)
    cases inLeft
  | succ bound ih =>
    unfold collect at hangs ⊢
    split at hangs
    · rename_i none
      have empty := List.filter_eq_nil_iff.mp none row inLeft
      exact absurd (decide_eq_true hangs) empty
    · rename_i some
      by_cases own : Hangs schema fallen row
      · refine mem_collect_of_mem (List.mem_append_left _ (List.mem_map_of_mem ?_))
        exact List.mem_filter.mpr ⟨inLeft, decide_eq_true own⟩
      · -- A round that finds something leaves fewer rows.
        obtain ⟨taken, isTaken⟩ := List.exists_mem_of_ne_nil _ some
        obtain ⟨wasLeft, takenHangs⟩ := List.mem_filter.mp isTaken
        have fewer : (left.filter fun other => ¬ Hangs schema fallen other).length < left.length :=
          List.length_filter_lt_length_iff_exists.mpr ⟨taken, wasLeft, by simpa using takenHangs⟩
        exact ih (by omega) (List.mem_filter.mpr ⟨inLeft, decide_eq_true own⟩) hangs

/-- The keys that fall with one. -/
def fallen (db : Database schema) (key : Key) : List Key :=
  collect schema db.rows.length db.rows [key]

theorem mem_fallen_iff {found : Key} : found ∈ db.fallen key ↔ Falls db key found := by
  constructor
  · refine falls_of_mem_collect (fun _ inRows => inRows) ?_
    intro any isKey
    obtain rfl := List.mem_singleton.mp isKey
    exact .self
  · intro falls
    induction falls with
    | self => exact mem_collect_of_mem (List.mem_singleton_self _)
    | cascade inRows refers _ ih =>
      exact closed_collect (Nat.le_refl _) inRows ⟨_, refers, rfl, ih⟩

/-- A row that is not to fall refers to one that is. -/
def Protects (schema : Schema Row Key Mark) (fallen : List Key) (row : Row) : Prop :=
  ∃ reference ∈ schema.references row, reference.2 = .protect ∧ reference.1 ∈ fallen

instance (fallen : List Key) (row : Row) : Decidable (Protects schema fallen row) :=
  inferInstanceAs (Decidable (∃ reference ∈ schema.references row, _))

/-- `DELETE` of the row at a key, with all that falls with it. -/
def delete (db : Database schema) (key : Key) : Except Refused (Database schema) :=
  if protects : ∃ row ∈ db.rows, Protects schema (db.fallen key) row then .error .protectedRow
  else
    .ok {
      rows := db.rows.filter fun row => schema.key row ∉ db.fallen key
      keys := db.keys.sublist (List.filter_sublist.map _)
      marks := fun a isA b isB different =>
        db.marks a (List.mem_of_mem_filter isA) b (List.mem_of_mem_filter isB) different
      references := by
        intro row kept reference refers
        obtain ⟨inRows, stays⟩ := List.mem_filter.mp kept
        obtain ⟨target, isTarget, same⟩ := db.references row inRows reference refers
        refine ⟨target, List.mem_filter.mpr ⟨isTarget, decide_eq_true ?_⟩, same⟩
        rw [same]
        intro targetFalls
        obtain ⟨targetKey, onDelete⟩ := reference
        cases onDelete with
        | cascade =>
          exact of_decide_eq_true stays
            (mem_fallen_iff.mpr (.cascade inRows refers (mem_fallen_iff.mp targetFalls)))
        | protect => exact protects ⟨row, inRows, _, refers, rfl, targetFalls⟩
      fits := fun row kept => db.fits row (List.mem_of_mem_filter kept)
      checks := fun row kept => db.checks row (List.mem_of_mem_filter kept) }

/-- What a delete that succeeds has done. -/
theorem mem_of_delete (deleted : db.delete key = .ok db') :
    row ∈ db'.rows ↔ row ∈ db.rows ∧ ¬ Falls db key (schema.key row) := by
  unfold delete at deleted
  split at deleted
  · cases deleted
  · cases deleted
    rw [List.mem_filter, decide_eq_true_iff, mem_fallen_iff]

/-- Without a row that protects what falls, the delete succeeds. -/
theorem delete_of_not_protects
    (none : ∀ row ∈ db.rows, ¬ ∃ reference ∈ schema.references row,
      reference.2 = .protect ∧ Falls db key reference.1) : ∃ db', db.delete key = .ok db' := by
  unfold delete
  rw [dif_neg]
  · exact ⟨_, rfl⟩
  · rintro ⟨row, inRows, reference, refers, isProtect, falls⟩
    exact none row inRows ⟨reference, refers, isProtect, mem_fallen_iff.mp falls⟩

/-- A row that protects one stops the delete. -/
theorem not_protects_of_delete (target : Key) (deleted : db.delete key = .ok db')
    (inRows : row ∈ db.rows) (refers : (target, .protect) ∈ schema.references row) :
    ¬ Falls db key target := by
  intro falls
  unfold delete at deleted
  split at deleted
  · cases deleted
  · rename_i stopped
    exact stopped ⟨row, inRows, _, refers, rfl, mem_fallen_iff.mpr falls⟩

end Database

end DicePipeline.Relational
