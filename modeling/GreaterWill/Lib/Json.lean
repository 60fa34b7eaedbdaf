import Mathlib.Data.Finmap
import Mathlib.Data.Finset.Sort
import Mathlib.Data.String.Basic

/-!
# JSON objects as records

JSON values, dictionaries with string keys, and the two halves of a derived serializer: a `Codec`
reads a type from a value and writes it, a `Field` reads a member of an object that may be missing
and writes a member that may be left out. What either has read it reads again from what it
writes; a codec that only reads what it writes itself is not asked for, since a lenient reader may
take more (a number for a string, `null` for nothing).

An object is a list of members; where a key stands twice, the last one counts (`Dict.ofList`). A
record is written as the members of its fields together with a dictionary of other members
(`Json.record`).
-/

namespace List
variable {α β : Type} {f : α → Option β}

/-- Where `f` takes every `g b` back to `b`, it takes the list of them back. -/
theorem mapM_map_of_forall_some {g : β → α} {bs : List β} (h : ∀ b ∈ bs, f (g b) = some b) :
    (bs.map g).mapM f = some bs := by
  induction bs with
  | nil => rfl
  | cons b bs ih =>
    obtain ⟨hb, hbs⟩ := List.forall_mem_cons.mp h
    simp only [map_cons, mapM_cons, hb, ih hbs, Option.pure_def, Option.bind_eq_bind,
      Option.bind_some]

/-- Every result of a list is the result of one of its elements. -/
theorem exists_of_mapM_eq_some {l : List α} {bs : List β} (h : l.mapM f = some bs) :
    ∀ b ∈ bs, ∃ a ∈ l, f a = some b := by
  induction l generalizing bs with
  | nil =>
    cases h
    simp
  | cons a l ih =>
    simp only [mapM_cons, Option.pure_def, Option.bind_eq_bind, Option.bind_eq_some_iff,
      Option.some.injEq] at h
    obtain ⟨b, hb, bs', hbs', rfl⟩ := h
    intro b' hmem
    rcases List.mem_cons.mp hmem with rfl | hmem
    · exact ⟨a, List.mem_cons_self, hb⟩
    · obtain ⟨a', ha', hfa'⟩ := ih hbs' b' hmem
      exact ⟨a', List.mem_cons_of_mem a ha', hfa'⟩

end List

/-- For a long `do` block, to be used from the outside in. -/
theorem Option.do_eq_some_iff {α β : Type} {x : Option α} {f : α → Option β} {b : β} :
    (x >>= f) = some b ↔ ∃ a, x = some a ∧ f a = some b :=
  Option.bind_eq_some_iff

namespace GreaterWill

/-! ## Dictionaries -/

/-- A finite map with string keys; two are equal when their lookups are. -/
abbrev Dict (V : Type) := Finmap fun _ : String => V

namespace Dict
variable {V W : Type}

/-- The dictionary of a list of members; the last member of a key counts. -/
def ofList (l : List (String × V)) : Dict V := l.foldl (fun d m => d.insert m.1 m.2) ∅

/-- The members in the order of their keys. -/
def toList (d : Dict V) : List (String × V) :=
  d.keys.sort.filterMap fun k => (d.lookup k).map (k, ·)

/-- Whether `p` holds of every value. -/
def allValues (p : V → Bool) (d : Dict V) : Bool := d.all fun _ v => p v

/-- Whether there is no member. -/
def isEmpty (d : Dict V) : Bool := d.all fun _ _ => false

@[simp] theorem ofList_nil : ofList ([] : List (String × V)) = ∅ := rfl

theorem ofList_concat (l : List (String × V)) (m : String × V) :
    ofList (l ++ [m]) = (ofList l).insert m.1 m.2 := by
  simp [ofList]

theorem lookup_insert_eq_ite (d : Dict V) (k k' : String) (v : V) :
    (d.insert k v).lookup k' = if k' = k then some v else d.lookup k' := by
  split
  · next h => rw [h, Finmap.lookup_insert]
  · next h => rw [Finmap.lookup_insert_of_ne _ h]

theorem lookup_ofList_concat (l : List (String × V)) (m : String × V) (k : String) :
    (ofList (l ++ [m])).lookup k = if k = m.1 then some m.2 else (ofList l).lookup k := by
  rw [ofList_concat, lookup_insert_eq_ite]

/-- Only the members of `k` matter for the lookup of `k`. -/
theorem lookup_ofList_filter {p : String → Bool} (l : List (String × V)) (k : String) :
    (ofList (l.filter fun m => p m.1)).lookup k =
      if p k then (ofList l).lookup k else none := by
  induction l using List.reverseRecOn with
  | nil => simp
  | append_singleton l m ih =>
    rw [List.filter_append]
    cases hm : p m.1 with
    | true =>
      rw [List.filter_singleton, hm, Bool.cond_true, lookup_ofList_concat, lookup_ofList_concat, ih]
      split
      · next h => rw [h, if_pos hm]
      · rfl
    | false =>
      rw [List.filter_singleton, hm, Bool.cond_false, List.append_nil, ih, lookup_ofList_concat]
      split
      · next hk =>
        have hne : k ≠ m.1 := by
          rintro rfl
          rw [hm] at hk
          cases hk
        rw [if_neg hne]
      · rfl

theorem lookup_ofList_map {f : V → W} (l : List (String × V)) (k : String) :
    (ofList (l.map fun m => (m.1, f m.2))).lookup k = ((ofList l).lookup k).map f := by
  induction l using List.reverseRecOn with
  | nil => simp
  | append_singleton l m ih =>
    rw [List.map_append, List.map_singleton, lookup_ofList_concat, lookup_ofList_concat, ih]
    split
    · rfl
    · rfl

/-- A dictionary with one value for all its keys. -/
theorem lookup_ofList_const (ks : List String) (v : V) (k : String) :
    (ofList (ks.map fun k => (k, v))).lookup k = if k ∈ ks then some v else none := by
  induction ks using List.reverseRecOn with
  | nil => simp
  | append_singleton ks k' ih =>
    rw [List.map_append, List.map_singleton, lookup_ofList_concat, ih]
    by_cases hk : k = k'
    · simp [hk]
    · simp [hk]

theorem lookup_ofList_eq_none {l : List (String × V)} {k : String} (h : ∀ m ∈ l, m.1 ≠ k) :
    (ofList l).lookup k = none := by
  induction l using List.reverseRecOn with
  | nil => simp
  | append_singleton l m ih =>
    obtain ⟨hl, hm⟩ := List.forall_mem_append.mp h
    rw [lookup_ofList_concat, if_neg (Ne.symm (hm m List.mem_cons_self)), ih hl]

/-- Where no key stands twice, every member counts. -/
theorem lookup_ofList_of_mem {l : List (String × V)} (hnodup : (l.map Prod.fst).Nodup)
    {k : String} {v : V} (hmem : (k, v) ∈ l) : (ofList l).lookup k = some v := by
  induction l using List.reverseRecOn with
  | nil => cases hmem
  | append_singleton l m ih =>
    rw [List.map_append, List.map_singleton, List.nodup_append] at hnodup
    obtain ⟨hl, -, hdisjoint⟩ := hnodup
    rw [lookup_ofList_concat]
    rcases List.mem_append.mp hmem with hmem | hmem
    · have hne : k ≠ m.1 :=
        hdisjoint k (List.mem_map.mpr ⟨_, hmem, rfl⟩) m.1 List.mem_cons_self
      rw [if_neg hne, ih hl hmem]
    · cases List.mem_singleton.mp hmem
      rw [if_pos rfl]

theorem mem_toList {d : Dict V} {k : String} {v : V} :
    (k, v) ∈ d.toList ↔ d.lookup k = some v := by
  simp only [toList, List.mem_filterMap, Finset.mem_sort, Finmap.mem_keys, Option.map_eq_some_iff,
    Prod.mk.injEq]
  constructor
  · rintro ⟨k', -, v', hlookup, rfl, rfl⟩
    exact hlookup
  · intro hlookup
    exact ⟨k, Finmap.mem_of_lookup_eq_some hlookup, v, hlookup, rfl, rfl⟩

theorem nodup_keys_toList (d : Dict V) : (d.toList.map Prod.fst).Nodup := by
  have hkeys : d.toList.map Prod.fst = d.keys.sort.filter fun k => (d.lookup k).isSome := by
    rw [toList, List.map_filterMap, ← List.filterMap_eq_filter]
    congr 1
    funext k
    cases h : d.lookup k with
    | none => simp [Option.guard, h]
    | some v => simp [Option.guard, h]
  rw [hkeys]
  exact (Finset.sort_nodup ..).filter _

@[simp] theorem ofList_toList (d : Dict V) : ofList d.toList = d := by
  apply Finmap.ext_lookup
  intro k
  cases h : d.lookup k with
  | some v => exact lookup_ofList_of_mem d.nodup_keys_toList (mem_toList.mpr h)
  | none =>
    apply lookup_ofList_eq_none
    rintro ⟨k', v⟩ hmem rfl
    rw [mem_toList.mp hmem] at h
    cases h

theorem allValues_iff {p : V → Bool} {d : Dict V} :
    d.allValues p = true ↔ ∀ k v, d.lookup k = some v → p v = true := by
  induction d using Finmap.induction_on with
  | H l =>
    have hfold : ∀ (es : List (Sigma fun _ : String => V)) (b : Bool),
        es.foldl (fun x e => x && p e.2) b = (b && es.all fun e => p e.2) := by
      intro es
      induction es with
      | nil => simp
      | cons e es ih =>
        intro b
        rw [List.foldl_cons, ih, List.all_cons, Bool.and_assoc]
    have hall : allValues p l.toFinmap = l.entries.all fun e => p e.2 := by
      rw [← Bool.true_and (l.entries.all _), ← hfold]
      rfl
    rw [hall, List.all_eq_true]
    constructor
    · intro h k v hlookup
      rw [Finmap.lookup_toFinmap] at hlookup
      exact h ⟨k, v⟩ (AList.mem_lookup_iff.mp hlookup)
    · intro h e he
      apply h e.1 e.2
      rw [Finmap.lookup_toFinmap]
      exact AList.mem_lookup_iff.mpr he

theorem isEmpty_iff {d : Dict V} : d.isEmpty = true ↔ d = ∅ := by
  have hall : d.isEmpty = d.allValues fun _ => false := rfl
  rw [hall, allValues_iff]
  constructor
  · intro h
    apply Finmap.ext_lookup
    intro k
    cases hk : d.lookup k with
    | none => rw [Finmap.lookup_empty]
    | some v => cases h k v hk
  · rintro rfl k v hlookup
    rw [Finmap.lookup_empty] at hlookup
    cases hlookup

/-- Steps that each change the value of their own key: a key has the value its step gives it, and
without a step the one it had. -/
theorem lookup_foldl {β : Type} {key : β → String} {step : Dict V → β → Dict V}
    {change : β → Option V → Option V}
    (hstep : ∀ d b k, (step d b).lookup k =
      if k = key b then change b (d.lookup k) else d.lookup k)
    {bs : List β} (hnodup : (bs.map key).Nodup) (d : Dict V) (k : String) :
    (bs.foldl step d).lookup k =
      ((bs.find? fun b => key b == k).elim id change) (d.lookup k) := by
  induction bs generalizing d with
  | nil => rfl
  | cons b bs ih =>
    obtain ⟨hb, hbs⟩ := List.nodup_cons.mp hnodup
    rw [List.foldl_cons, ih hbs, hstep, List.find?_cons]
    by_cases hk : key b = k
    · have hnone : bs.find? (fun b => key b == k) = none := by
        rw [List.find?_eq_none]
        intro b' hb' heq
        exact hb (List.mem_map.mpr ⟨b', hb', (beq_iff_eq.mp heq).trans hk.symm⟩)
      rw [hnone, if_pos hk.symm, hk, beq_self_eq_true]
      rfl
    · rw [if_neg (Ne.symm hk), beq_eq_false_iff_ne.mpr hk]

end Dict

/-! ## Values -/

/-- A number: a natural one, a negative one, or a finite double given by its bits. -/
inductive JsonNumber where
  | posInt (n : UInt64)
  | negInt (n : Int64)
  | float (bits : UInt64)
  deriving DecidableEq

inductive Json where
  | null
  | bool (b : Bool)
  | number (n : JsonNumber)
  | string (s : String)
  | array (items : List Json)
  | object (members : List (String × Json))

namespace Json

/-- The members of an object. -/
def asObject : Json → Option (List (String × Json))
  | object members => some members
  | _ => none

/-- The member of an object at a key. -/
def get (v : Json) (k : String) : Option Json :=
  v.asObject.bind fun members => (Dict.ofList members).lookup k

@[simp] theorem asObject_object (members : List (String × Json)) :
    (object members).asObject = some members := rfl

theorem get_object (members : List (String × Json)) (k : String) :
    (object members).get k = (Dict.ofList members).lookup k := rfl

/-- The members of an object whose keys are not among `keys`. -/
def others (v : Json) (keys : List String) : Dict Json :=
  Dict.ofList ((v.asObject.getD []).filter fun m => m.1 ∉ keys)

theorem lookup_others (v : Json) (keys : List String) (k : String) :
    (v.others keys).lookup k = if k ∈ keys then none else v.get k := by
  have hget : v.get k = (Dict.ofList (v.asObject.getD [])).lookup k := by
    cases h : v.asObject with
    | none => simp [get, h]
    | some members => simp [get, h]
  rw [others, Dict.lookup_ofList_filter (p := fun k => decide (k ∉ keys)), ← hget]
  by_cases h : k ∈ keys
  · simp [h]
  · simp [h]

theorem notMem_others {v : Json} {keys : List String} {k : String} (h : k ∈ keys) :
    k ∉ v.others keys := by
  rw [← Finmap.lookup_eq_none, lookup_others, if_pos h]

/-- The members of the fields that are written. -/
def written (fields : List (String × Option Json)) : List (String × Json) :=
  fields.filterMap fun f => f.2.map (f.1, ·)

/-- The object with the written fields and the other members; of a key that is in both, the
other member is the later one. -/
def record (fields : List (String × Option Json)) (others : Dict Json) : Json :=
  object (others ∪ Dict.ofList (written fields)).toList

theorem mem_written {fields : List (String × Option Json)} {k : String} {v : Json} :
    (k, v) ∈ written fields ↔ (k, some v) ∈ fields := by
  simp only [written, List.mem_filterMap, Option.map_eq_some_iff, Prod.mk.injEq]
  constructor
  · rintro ⟨⟨k', w⟩, hmem, v', rfl, rfl, rfl⟩
    exact hmem
  · intro hmem
    exact ⟨_, hmem, v, rfl, rfl, rfl⟩

theorem keys_written_sublist (fields : List (String × Option Json)) :
    ((written fields).map Prod.fst).Sublist (fields.map Prod.fst) := by
  induction fields with
  | nil => exact .slnil
  | cons f fields ih =>
    obtain ⟨k, w⟩ := f
    cases w with
    | none => exact ih.cons k
    | some v => exact ih.cons_cons k

theorem get_record_of_mem {fields : List (String × Option Json)} {others : Dict Json}
    {k : String} {w : Option Json} (hnodup : (fields.map Prod.fst).Nodup)
    (hmem : (k, w) ∈ fields) (hk : k ∉ others) : (record fields others).get k = w := by
  rw [record, get_object, Dict.ofList_toList, Finmap.lookup_union_right hk]
  cases w with
  | some v =>
    exact Dict.lookup_ofList_of_mem (hnodup.sublist (keys_written_sublist fields))
      (mem_written.mpr hmem)
  | none =>
    apply Dict.lookup_ofList_eq_none
    rintro ⟨k', v⟩ hwritten rfl
    have heq := List.inj_on_of_nodup_map hnodup hmem (mem_written.mp hwritten) rfl
    cases heq

theorem get_record_of_notMem {fields : List (String × Option Json)} {others : Dict Json}
    {k : String} (h : k ∉ fields.map Prod.fst) :
    (record fields others).get k = others.lookup k := by
  have hnone : (Dict.ofList (written fields)).lookup k = none := by
    apply Dict.lookup_ofList_eq_none
    rintro m hm rfl
    exact h ((keys_written_sublist fields).subset (List.mem_map_of_mem hm))
  rw [record, get_object, Dict.ofList_toList]
  exact Finmap.lookup_union_left_of_not_in (Finmap.lookup_eq_none.mp hnone)

/-- Written as a record, the other members come back as the other members. -/
theorem others_record {fields : List (String × Option Json)} {others : Dict Json}
    (hkeys : ∀ k ∈ fields.map Prod.fst, k ∉ others) :
    (record fields others).others (fields.map Prod.fst) = others := by
  apply Finmap.ext_lookup
  intro k
  rw [lookup_others]
  split
  · next hk => exact (Finmap.lookup_eq_none.mpr (hkeys k hk)).symm
  · next hk => exact get_record_of_notMem hk

end Json

/-! ## Codecs -/

/-- Reading a type from a value and writing it. -/
structure Codec (α : Type) where
  decode : Json → Option α
  encode : α → Json
  /-- What was read is read again from what is written. -/
  stable : ∀ {v a}, decode v = some a → decode (encode a) = some a
  /-- What was not read from `null` is not written as `null`. -/
  encode_ne_null : ∀ {v a}, decode v = some a → v ≠ .null → encode a ≠ .null

namespace Codec
variable {α : Type}

/-- `String`. -/
def string : Codec String where
  decode
    | .string s => some s
    | _ => none
  encode := .string
  stable _ := rfl
  encode_ne_null _ _ h := nomatch h

/-- `u32`. -/
def u32 : Codec UInt32 where
  decode
    | .number (.posInt n) => if n.toNat < 2 ^ 32 then some n.toUInt32 else none
    | _ => none
  encode n := .number (.posInt n.toUInt64)
  stable {_ n} _ := by
    have hlt : n.toUInt64.toNat < 2 ^ 32 := by
      rw [UInt32.toNat_toUInt64]
      exact n.toNat_lt
    simp only [if_pos hlt, UInt32.toUInt32_toUInt64]
  encode_ne_null _ _ h := nomatch h

/-- Any value. -/
def json : Codec Json where
  decode := some
  encode v := v
  stable _ := rfl
  encode_ne_null h hv := by
    cases h
    exact hv

/-- A list, item by item. -/
def list (c : Codec α) : Codec (List α) where
  decode
    | .array items => items.mapM c.decode
    | _ => none
  encode as := .array (as.map c.encode)
  stable {v as} h := by
    cases v with
    | array items =>
      have hmem := List.exists_of_mapM_eq_some h
      apply List.mapM_map_of_forall_some
      intro a ha
      obtain ⟨item, -, hitem⟩ := hmem a ha
      exact c.stable hitem
    | _ => cases h
  encode_ne_null _ _ h := nomatch h

/-- Read the members one after the other; every one of them has to be readable. -/
def decodeMembers (c : Codec α) (members : List (String × Json)) :
    Option (List (String × α)) :=
  members.mapM fun m => (c.decode m.2).map (m.1, ·)

theorem lookup_decodeMembers {c : Codec α} {members : List (String × Json)}
    {as : List (String × α)} (h : c.decodeMembers members = some as) (k : String) :
    ((Dict.ofList as).lookup k).map some = ((Dict.ofList members).lookup k).map c.decode := by
  induction members using List.reverseRecOn generalizing as with
  | nil =>
    cases h
    simp
  | append_singleton members m ih =>
    rw [decodeMembers, List.mapM_append] at h
    simp only [List.mapM_cons, List.mapM_nil, Option.pure_def, Option.bind_eq_bind,
      Option.bind_eq_some_iff, Option.map_eq_some_iff, Option.some.injEq] at h
    obtain ⟨as', has', _, ⟨_, ⟨a, ha, rfl⟩, _, rfl, rfl⟩, rfl⟩ := h
    rw [Dict.lookup_ofList_concat, Dict.lookup_ofList_concat]
    split
    · rw [Option.map_some, Option.map_some, ha]
    · exact ih has'

/-- A dictionary, member by member. -/
def dict (c : Codec α) : Codec (Dict α) where
  decode
    | .object members => (c.decodeMembers members).map Dict.ofList
    | _ => none
  encode d := .object (d.toList.map fun m => (m.1, c.encode m.2))
  stable {v d} h := by
    cases v with
    | object members =>
      obtain ⟨as, has, rfl⟩ := Option.map_eq_some_iff.mp h
      have hread : c.decodeMembers ((Dict.ofList as).toList.map fun m => (m.1, c.encode m.2)) =
          some (Dict.ofList as).toList := by
        apply List.mapM_map_of_forall_some
        rintro ⟨k, a⟩ hmem
        have hlookup := lookup_decodeMembers has k
        rw [Dict.mem_toList.mp hmem, Option.map_some, eq_comm] at hlookup
        obtain ⟨item, -, hitem⟩ := Option.map_eq_some_iff.mp hlookup
        simp [c.stable hitem]
      simp only [hread, Option.map_some, Dict.ofList_toList]
    | _ => cases h
  encode_ne_null _ _ h := nomatch h

theorem dict_empty (c : Codec α) : c.dict.decode (c.dict.encode ∅) = some ∅ := by
  simp [dict, Dict.toList, decodeMembers]

/-- What a dictionary that was read has at a key was read from the member at that key; every
member was read. -/
theorem lookup_dict {c : Codec α} {v : Json} {d : Dict α} (h : c.dict.decode v = some d)
    (k : String) : (d.lookup k).map some = (v.get k).map c.decode := by
  cases v with
  | object members =>
    obtain ⟨as, has, rfl⟩ := Option.map_eq_some_iff.mp h
    rw [lookup_decodeMembers has, Json.get_object]
  | _ => cases h

theorem get_encode_dict (c : Codec α) (d : Dict α) (k : String) :
    (c.dict.encode d).get k = (d.lookup k).map c.encode := by
  rw [dict, Json.get_object, Dict.lookup_ofList_map, Dict.ofList_toList]

end Codec

/-! ## Fields -/

/-- Reading a member of an object that may be missing, and writing a member that may be left
out. -/
structure Field (α : Type) where
  read : Option Json → Option α
  write : α → Option Json
  /-- What was read is read again from what is written. -/
  stable : ∀ {w a}, read w = some a → read (write a) = some a

namespace Field
variable {α : Type}

/-- A member that has to be there. -/
def required (c : Codec α) : Field α where
  read w := w.bind c.decode
  write a := some (c.encode a)
  stable {w a} h := by
    obtain ⟨v, -, hv⟩ := Option.bind_eq_some_iff.mp h
    rw [Option.bind_some, c.stable hv]

/-- A member that may be missing and then has the value `a₀`. -/
def default (c : Codec α) (a₀ : α) (h₀ : c.decode (c.encode a₀) = some a₀) : Field α where
  read
    | none => some a₀
    | some v => c.decode v
  write a := some (c.encode a)
  stable {w a} h := by
    cases w with
    | none =>
      cases h
      exact h₀
    | some v => exact c.stable h

/-- The reading of an optional member; `null` is read as a missing one. -/
def readOption (c : Codec α) : Option Json → Option (Option α)
  | none => some none
  | some .null => some none
  | some v => (c.decode v).map some

theorem readOption_of_ne_null {c : Codec α} {v : Json} (h : v ≠ .null) :
    readOption c (some v) = (c.decode v).map some := by
  rw [readOption]
  exact h

theorem readOption_encode {c : Codec α} {w : Option Json} {a : α}
    (h : readOption c w = some (some a)) : readOption c (some (c.encode a)) = some (some a) := by
  obtain ⟨v, rfl, hv⟩ : ∃ v, w = some v ∧ v ≠ .null := by
    cases w with
    | none => cases h
    | some v => exact ⟨v, rfl, by rintro rfl; cases h⟩
  rw [readOption_of_ne_null hv] at h
  obtain ⟨a', ha, heq⟩ := Option.map_eq_some_iff.mp h
  cases heq
  rw [readOption_of_ne_null (c.encode_ne_null ha hv), c.stable ha, Option.map_some]

/-- An optional member that is written as `null` when there is no value. -/
def optional (c : Codec α) : Field (Option α) where
  read := readOption c
  write a := some ((a.map c.encode).getD .null)
  stable {w a} h := by
    cases a with
    | none => rfl
    | some a => exact readOption_encode h

/-- An optional member that is left out when there is no value. -/
def skipNone (c : Codec α) : Field (Option α) where
  read := readOption c
  write a := a.map c.encode
  stable {w a} h := by
    cases a with
    | none => rfl
    | some a => exact readOption_encode h

end Field

/-! ## Records -/

/-- A field of the record `R`: its key, how it is read and written, and where `R` keeps it. -/
structure RecordField (R : Type) where
  key : String
  {α : Type}
  field : Field α
  get : R → α

namespace RecordField
variable {R : Type}

/-- The field of `r` is what is read from `v`. -/
def Reads (f : RecordField R) (v : Json) (r : R) : Prop :=
  f.field.read (v.get f.key) = some (f.get r)

/-- The member the field of `r` is written as. -/
def member (f : RecordField R) (r : R) : String × Option Json :=
  (f.key, f.field.write (f.get r))

end RecordField

/-- A record that keeps the members beyond its fields. Reading it reads every field and nothing
else. -/
structure Record (R : Type) where
  fields : List (RecordField R)
  others : R → Dict Json
  decode : Json → Option R
  nodup_keys : (fields.map (·.key)).Nodup
  decode_eq_some : ∀ {v r}, decode v = some r ↔ v.asObject.isSome ∧
    (∀ f ∈ fields, f.Reads v r) ∧ others r = v.others (fields.map (·.key))

namespace Record
variable {R : Type} (c : Record R) {v : Json} {r : R} {k : String}

/-- The declared keys. -/
def keys : List String := c.fields.map (·.key)

/-- The fields, and after them the other members. -/
def encode (r : R) : Json := .record (c.fields.map (·.member r)) (c.others r)

theorem keys_member (r : R) : (c.fields.map (·.member r)).map Prod.fst = c.keys := by
  rw [List.map_map]
  rfl

variable {c}

theorem notMem_others (h : c.decode v = some r) (hk : k ∈ c.keys) : k ∉ c.others r := by
  rw [(c.decode_eq_some.mp h).2.2]
  exact Json.notMem_others hk

theorem get_encode_of_mem (h : c.decode v = some r) {f : RecordField R} (hf : f ∈ c.fields) :
    (c.encode r).get f.key = f.field.write (f.get r) := by
  apply Json.get_record_of_mem
  · rw [keys_member]
    exact c.nodup_keys
  · exact List.mem_map_of_mem hf
  · exact notMem_others h (List.mem_map_of_mem hf)

/-- An undeclared member is written as it was read. -/
theorem get_encode_of_notMem (h : c.decode v = some r) (hk : k ∉ c.keys) :
    (c.encode r).get k = v.get k := by
  rw [← keys_member c r] at hk
  rw [encode, Json.get_record_of_notMem hk, (c.decode_eq_some.mp h).2.2, Json.lookup_others]
  rw [keys_member] at hk
  exact if_neg hk

/-- A record that was read is read again from what is written. -/
theorem decode_encode (h : c.decode v = some r) : c.decode (c.encode r) = some r := by
  obtain ⟨-, hfields, -⟩ := c.decode_eq_some.mp h
  refine c.decode_eq_some.mpr ⟨rfl, ?_, ?_⟩
  · intro f hf
    rw [RecordField.Reads, get_encode_of_mem h hf]
    exact f.field.stable (hfields f hf)
  · have hkeys : ∀ k ∈ (c.fields.map (·.member r)).map Prod.fst, k ∉ c.others r := by
      intro k hk
      rw [keys_member] at hk
      exact notMem_others h hk
    have hothers := Json.others_record hkeys
    rw [keys_member] at hothers
    exact hothers.symm

variable (c) in
/-- A record as a value. -/
def codec : Codec R where
  decode := c.decode
  encode := c.encode
  stable := decode_encode
  encode_ne_null _ _ h := nomatch h

end Record

end GreaterWill
