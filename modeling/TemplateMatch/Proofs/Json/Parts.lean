import TemplateMatch.Document
import TemplateMatch.Proofs.Results

/-!
The parts of a tree, and what holds of all of them. Objects are maps: every tree that is read from a
text has objects with distinct keys (`distinctKeys_of_read`).
-/

namespace TemplateMatch.Json

namespace Value

/-- Induction over trees, from the items of arrays and the values of fields. -/
theorem induction {P : Value → Prop}
    (leaf : ∀ v, (∀ items, v ≠ .array items) → (∀ fields, v ≠ .object fields) → P v)
    (array : ∀ items, (∀ v ∈ items, P v) → P (.array items))
    (object : ∀ fields, (∀ f ∈ fields, P f.2) → P (.object fields)) (v : Value) : P v := by
  refine @Value.rec P (fun items => ∀ v ∈ items, P v) (fun fields => ∀ f ∈ fields, P f.2)
    (fun f => P f.2) (leaf _ nofun nofun) (fun _ => leaf _ nofun nofun)
    (fun _ => leaf _ nofun nofun) (fun _ => leaf _ nofun nofun) (fun items => array items)
    (fun fields => object fields) nofun (fun _ _ h hs => List.forall_mem_cons.mpr ⟨h, hs⟩) nofun
    (fun _ _ h hs => List.forall_mem_cons.mpr ⟨h, hs⟩) (fun _ _ h => h) v

/-- A part of a tree: all of it, or a part of an item or of the value of a field. -/
inductive Part : Value → Value → Prop
  | self (v : Value) : Part v v
  | item {v w : Value} {items : List Value} : w ∈ items → Part v w → Part v (.array items)
  | field {v : Value} {f : String × Value} {fields : List (String × Value)} :
    f ∈ fields → Part v f.2 → Part v (.object fields)

theorem Part.trans {u v w : Value} (h : Part u v) (h' : Part v w) : Part u w := by
  induction h' with
  | self => exact h
  | item hmem _ ih => exact .item hmem ih
  | field hmem _ ih => exact .field hmem ih

/-- A text that a tree has as a key or as a string. -/
inductive HasText (text : String) (v : Value) : Prop
  | string : Part (.string text) v → HasText text v
  | key {f : String × Value} {fields : List (String × Value)} :
    Part (.object fields) v → f ∈ fields → f.1 = text → HasText text v

theorem HasText.of_part {text : String} {v w : Value} (h : HasText text v) (hpart : Part v w) :
    HasText text w := by
  cases h with
  | string h => exact .string (h.trans hpart)
  | key h hf hkey => exact .key (h.trans hpart) hf hkey

/-- Something holds of every part of a tree. -/
def Everywhere (P : Value → Prop) (v : Value) : Prop := ∀ w, Part w v → P w

namespace Everywhere

variable {P : Value → Prop}

theorem self {v : Value} (h : Everywhere P v) : P v := h v (.self v)

theorem item {items : List Value} (h : Everywhere P (.array items)) {v : Value} (hv : v ∈ items) :
    Everywhere P v := fun w hw => h w (.item hv hw)

theorem field {fields : List (String × Value)} (h : Everywhere P (.object fields))
    {f : String × Value} (hf : f ∈ fields) : Everywhere P f.2 := fun w hw => h w (.field hf hw)

theorem leaf {v : Value} (h : P v) (hitems : ∀ items, v ≠ .array items)
    (hfields : ∀ fields, v ≠ .object fields) : Everywhere P v := by
  intro w hw
  cases hw with
  | self => exact h
  | item => exact absurd rfl (hitems _)
  | field => exact absurd rfl (hfields _)

@[simp] theorem leaf_iff {v : Value} (hitems : ∀ items, v ≠ .array items)
    (hfields : ∀ fields, v ≠ .object fields) : Everywhere P v ↔ P v :=
  ⟨self, fun h => leaf h hitems hfields⟩

@[simp] theorem array_iff {items : List Value} :
    Everywhere P (.array items) ↔ P (.array items) ∧ ∀ v ∈ items, Everywhere P v := by
  refine ⟨fun h => ⟨h.self, fun v hv => h.item hv⟩, ?_⟩
  rintro ⟨h, hitems⟩ w hw
  cases hw with
  | self => exact h
  | item hv hw => exact hitems _ hv w hw

@[simp] theorem object_iff {fields : List (String × Value)} :
    Everywhere P (.object fields) ↔ P (.object fields) ∧ ∀ f ∈ fields, Everywhere P f.2 := by
  refine ⟨fun h => ⟨h.self, fun f hf => h.field hf⟩, ?_⟩
  rintro ⟨h, hfields⟩ w hw
  cases hw with
  | self => exact h
  | field hf hw => exact hfields _ hf w hw

end Everywhere

/-! ## Distinct keys -/

/-- The keys of an object are distinct. -/
def IsMap : Value → Prop
  | object fields => (fields.map Prod.fst).Nodup
  | _ => True

/-- No object in the tree has a key twice. -/
abbrev DistinctKeys (v : Value) : Prop := v.Everywhere IsMap

end Value

theorem mem_assign {α : Type} {name : String} {value : α} {entries : List (String × α)}
    {e : String × α} (h : e ∈ assign name value entries) : e = (name, value) ∨ e ∈ entries := by
  induction entries with
  | nil => exact .inl (List.mem_singleton.mp h)
  | cons entry rest ih =>
    rw [assign] at h
    split at h
    · exact (List.mem_cons.mp h).imp id (List.mem_cons_of_mem _)
    · rcases List.mem_cons.mp h with rfl | h
      · exact .inr List.mem_cons_self
      · exact (ih h).imp id (List.mem_cons_of_mem _)

theorem Value.DistinctKeys.assign {key : String} {v : Value} {fields : List (String × Value)}
    (hfields : DistinctKeys (.object fields)) (hv : v.DistinctKeys) :
    DistinctKeys (.object (assign key v fields)) := by
  refine Everywhere.object_iff.mpr ⟨nodup_assign hfields.self, fun f hf => ?_⟩
  rcases mem_assign hf with rfl | hf
  · exact hv
  · exact hfields.field hf

theorem Value.distinctKeys_leaf {v : Value} (hitems : ∀ items, v ≠ .array items)
    (hfields : ∀ fields, v ≠ .object fields) : v.DistinctKeys := by
  refine .leaf ?_ hitems hfields
  cases v with
  | object fields => exact absurd rfl (hfields fields)
  | _ => trivial

/-- What a reader of values gives with so much fuel. -/
def ValuesAreMaps (fuel : Nat) : Prop :=
  ∀ depth p text v rest, readValue fuel depth p text = .ok (v, rest) → v.DistinctKeys

def ItemsAreMaps (fuel : Nat) : Prop :=
  ∀ depth first done p text items rest, (∀ v ∈ done, v.DistinctKeys) →
    readItems fuel depth first done p text = .ok (items, rest) → ∀ v ∈ items, v.DistinctKeys

def FieldsAreMaps (fuel : Nat) : Prop :=
  ∀ depth first done p text fields rest, Value.DistinctKeys (.object done) →
    readFields fuel depth first done p text = .ok (fields, rest) →
    Value.DistinctKeys (.object fields)

theorem distinctKeys_of_map {ε α β : Type} {r : Except ε α} {f : α → Value × β} {v : Value}
    {rest : β} (hf : ∀ a, (f a).1.DistinctKeys) (h : r.map f = .ok (v, rest)) :
    v.DistinctKeys := by
  obtain ⟨a, _, ha⟩ := map_eq_ok.mp h
  have hkeys := hf a
  rw [ha] at hkeys
  exact hkeys

theorem valuesAreMaps_succ {fuel : Nat} (hitems : ItemsAreMaps fuel)
    (hfields : FieldsAreMaps fuel) : ValuesAreMaps (fuel + 1) := by
  intro depth p text v rest h
  rw [readValue] at h
  split at h
  · cases h
  · next p c more _ =>
    split at h
    · refine distinctKeys_of_map (fun _ => ?_) h
      exact Value.distinctKeys_leaf nofun nofun
    · split at h
      · split at h
        · cases h
        · next depth =>
          obtain ⟨r, hread, hr⟩ := map_eq_ok.mp h
          cases hr
          exact Value.Everywhere.array_iff.mpr ⟨trivial, hitems _ _ _ _ _ _ _ (by simp) hread⟩
      · split at h
        · split at h
          · cases h
          · next depth =>
            obtain ⟨r, hread, hr⟩ := map_eq_ok.mp h
            cases hr
            have hnil : Value.DistinctKeys (.object []) := by simp [Value.IsMap]
            exact hfields _ _ _ _ _ _ _ hnil hread
        · -- Words and numbers.
          split at h
          · refine distinctKeys_of_map (fun _ => ?_) h
            exact Value.distinctKeys_leaf nofun nofun
          · split at h
            · refine distinctKeys_of_map (fun _ => ?_) h
              exact Value.distinctKeys_leaf nofun nofun
            · split at h
              · refine distinctKeys_of_map (fun _ => ?_) h
                exact Value.distinctKeys_leaf nofun nofun
              · split at h
                · refine distinctKeys_of_map (fun _ => ?_) h
                  exact Value.distinctKeys_leaf nofun nofun
                · split at h
                  · refine distinctKeys_of_map (fun _ => ?_) h
                    exact Value.distinctKeys_leaf nofun nofun
                  · cases h

/-- One item and those behind it, after items that stand last first. -/
def nextItem (fuel depth : Nat) (done : List Value) (p : Place) (text : List Char) :
    ReadResult (List Value) :=
  match readValue fuel depth p text with
  | .error e => .error e
  | .ok (v, p, rest) => readItems fuel depth false (v :: done) p rest

/-- One field and those behind it. -/
def nextField (fuel depth : Nat) (done : List (String × Value)) (p : Place) (text : List Char) :
    ReadResult (List (String × Value)) :=
  match readString fuel p text with
  | .error e => .error e
  | .ok (key, p, text) =>
    match skipSpace p text with
    | (p, []) => .error ⟨.endInObject, p⟩
    | (p, c :: rest) =>
      if c = ':' then
        match readValue fuel depth (p.after c) rest with
        | .error e => .error e
        | .ok (v, p, rest) => readFields fuel depth false (assign key v done) p rest
      else .error ⟨.expectedColon, p.afterByte c⟩

theorem itemsAreMaps_succ {fuel : Nat} (hvalues : ValuesAreMaps fuel) (hitems : ItemsAreMaps fuel) :
    ItemsAreMaps (fuel + 1) := by
  intro depth first done p text items rest hdone h
  have hitem {p : Place} {text : List Char}
      (h : nextItem fuel depth done p text = .ok (items, rest)) :
      ∀ v ∈ items, v.DistinctKeys := by
    rw [nextItem] at h
    split at h
    · cases h
    · next v p more hv =>
      exact hitems _ _ _ _ _ _ _
        (List.forall_mem_cons.mpr ⟨hvalues _ _ _ _ _ hv, hdone⟩) h
  rw [readItems] at h
  split at h
  · cases h
  · split at h
    · cases h
      exact fun v hv => hdone v (List.mem_reverse.mp hv)
    · split at h
      · exact hitem h
      · split at h
        · split at h
          · cases h
          · split at h
            · cases h
            · exact hitem h
        · cases h

theorem fieldsAreMaps_succ {fuel : Nat} (hvalues : ValuesAreMaps fuel)
    (hfields : FieldsAreMaps fuel) : FieldsAreMaps (fuel + 1) := by
  intro depth first done p text fields rest hdone h
  have hfield {p : Place} {text : List Char}
      (h : nextField fuel depth done p text = .ok (fields, rest)) :
      Value.DistinctKeys (.object fields) := by
    rw [nextField] at h
    split at h
    · cases h
    · split at h
      · cases h
      · split at h
        · split at h
          · cases h
          · next v p more hv =>
            exact hfields _ _ _ _ _ _ _ (hdone.assign (hvalues _ _ _ _ _ hv)) h
        · cases h
  rw [readFields] at h
  split at h
  · cases h
  · split at h
    · cases h
      exact hdone
    · split at h
      · split at h
        · exact hfield h
        · cases h
      · split at h
        · split at h
          · cases h
          · split at h
            · exact hfield h
            · split at h <;> cases h
        · cases h

theorem valuesAreMaps (fuel : Nat) :
    ValuesAreMaps fuel ∧ ItemsAreMaps fuel ∧ FieldsAreMaps fuel := by
  induction fuel with
  | zero => exact ⟨nofun, nofun, nofun⟩
  | succ fuel ih =>
    obtain ⟨hvalues, hitems, hfields⟩ := ih
    exact ⟨valuesAreMaps_succ hitems hfields, itemsAreMaps_succ hvalues hitems,
      fieldsAreMaps_succ hvalues hfields⟩

/-- A key that comes again in a text is assigned to, so no tree that is read has it twice. -/
theorem Value.distinctKeys_of_read {text : String} {v : Value} (h : read text = .ok v) :
    v.DistinctKeys := by
  rw [read] at h
  split at h
  · cases h
  · next v' p rest hv =>
    split at h
    · cases h
      exact (valuesAreMaps _).1 _ _ _ _ _ hv
    · cases h

end TemplateMatch.Json

namespace TemplateMatch.Document

/-- A document that is a tree already has objects with distinct keys. -/
def IsMaps : Document → Prop
  | text _ => True
  | json tree => tree.DistinctKeys

theorem distinctKeys_of_tree {d : Document} {v : Json.Value} (hd : d.IsMaps)
    (h : d.tree = .ok v) : v.DistinctKeys := by
  cases d with
  | text content => exact Json.Value.distinctKeys_of_read h
  | json tree =>
    cases h
    exact hd

end TemplateMatch.Document
