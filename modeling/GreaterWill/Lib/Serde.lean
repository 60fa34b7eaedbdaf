import GreaterWill.Lib.JsonText
import GreaterWill.Lib.Map

/-!
# Lossless serializers

A `Serde` writes every value of a type as JSON and reads it back (`decode_encode`). There is one for
strings, booleans, the unsigned integers, options and lists, for enumerations by the names of their
variants, and the members of records are read one by one: a member that stands twice is an error, and
members nobody asks for are ignored. A map is read back as a map with the same values (`toMap_ofMap`),
whatever the order of its keys.
-/

namespace GreaterWill

structure Serde (α : Type) where
  encode : α → Json
  decode : Json → Option α
  decode_encode : ∀ a, decode (encode a) = some a
  /-- What is written has a text. -/
  plain_encode : ∀ a, JsonText.plain (encode a) = true
  encode_ne_null : ∀ a, encode a ≠ .null

namespace Serde
variable {α : Type}

attribute [simp] decode_encode plain_encode

def string : Serde String where
  encode := .string
  decode
    | .string s => some s
    | _ => none
  decode_encode _ := rfl
  plain_encode _ := rfl
  encode_ne_null _ h := nomatch h

def bool : Serde Bool where
  encode := .bool
  decode
    | .bool b => some b
    | _ => none
  decode_encode _ := rfl
  plain_encode _ := rfl
  encode_ne_null _ h := nomatch h

/-- An unsigned integer of at most 64 bits, by its range. -/
def uint (toNat : α → Nat) (ofNat : Nat → α) (bound : Nat) (hbound : bound ≤ 2 ^ 64)
    (hlt : ∀ a, toNat a < bound) (hof : ∀ a, ofNat (toNat a) = a) : Serde α where
  encode a := .number (.posInt (UInt64.ofNat (toNat a)))
  decode
    | .number (.posInt n) => if n.toNat < bound then some (ofNat n.toNat) else none
    | _ => none
  decode_encode a := by
    have hn : (UInt64.ofNat (toNat a)).toNat = toNat a := by
      rw [UInt64.toNat_ofNat', Nat.mod_eq_of_lt (Nat.lt_of_lt_of_le (hlt a) hbound)]
    simp only [hn, if_pos (hlt a), hof]
  plain_encode _ := rfl
  encode_ne_null _ h := nomatch h

def u8 : Serde UInt8 :=
  uint UInt8.toNat UInt8.ofNat (2 ^ 8) (by decide) UInt8.toNat_lt fun _ => UInt8.ofNat_toNat

def u32 : Serde UInt32 :=
  uint UInt32.toNat UInt32.ofNat (2 ^ 32) (by decide) UInt32.toNat_lt fun _ => UInt32.ofNat_toNat

/-- `u64`, and `usize`. -/
def u64 : Serde UInt64 :=
  uint UInt64.toNat UInt64.ofNat (2 ^ 64) (by decide) UInt64.toNat_lt fun _ => UInt64.ofNat_toNat

/-- An integer, by its sign and the numeral of its absolute value. -/
def int : Serde Int where
  encode n := .array [.bool (n < 0), .string n.natAbs.repr]
  decode
    | .array [.bool negative, .string numeral] =>
      (Text.parseDigits numeral.toList).map fun (n : Nat) =>
        if negative then -(n : Int) else (n : Int)
    | _ => none
  decode_encode n := by
    have hsign : (if decide (n < 0) = true then -(n.natAbs : Int) else n.natAbs) = n := by
      by_cases hn : n < 0
      · rw [decide_eq_true hn, if_pos rfl]
        omega
      · rw [decide_eq_false hn, if_neg Bool.false_ne_true]
        omega
    have hnumeral := Text.parseDigits_repr n.natAbs
    simp only [hnumeral, Option.map_some, hsign]
  plain_encode _ := rfl
  encode_ne_null _ h := nomatch h

theorem mapM_decode_map (c : Serde α) (as : List α) :
    (as.map c.encode).mapM c.decode = some as :=
  List.mapM_map_of_forall_some fun a _ => c.decode_encode a

theorem plainItems_map (c : Serde α) (as : List α) :
    JsonText.plainItems (as.map c.encode) = true := by
  induction as with
  | nil => rfl
  | cons a as ih => rw [List.map_cons, JsonText.plainItems, c.plain_encode, ih, Bool.and_self]

def list (c : Serde α) : Serde (List α) where
  encode as := .array (as.map c.encode)
  decode
    | .array items => items.mapM c.decode
    | _ => none
  decode_encode as := c.mapM_decode_map as
  plain_encode as := c.plainItems_map as
  encode_ne_null _ h := nomatch h

/-- An enumeration without data, by the names of its variants. -/
def variants [DecidableEq α] (name : α → String) (all : List α) (hall : ∀ a, a ∈ all)
    (hname : ∀ a ∈ all, ∀ b ∈ all, name a = name b → a = b) : Serde α where
  encode a := .string (name a)
  decode
    | .string s => all.find? (name · == s)
    | _ => none
  decode_encode a := by
    cases h : all.find? (name · == name a) with
    | none =>
      have hnone := List.find?_eq_none.mp h a (hall a)
      rw [beq_self_eq_true] at hnone
      exact absurd rfl hnone
    | some b =>
      have hb := List.find?_some h
      exact h.trans (congrArg some
        (hname b (List.mem_of_find?_eq_some h) a (hall a) (beq_iff_eq.mp hb)))
  plain_encode _ := rfl
  encode_ne_null _ h := nomatch h

end Serde

/-! ## Members -/

/-- The members of an object. -/
abbrev Members := List (String × Json)

namespace Members
variable {α : Type}

/-- The value of the key, if any; nothing if the key stands twice. -/
def unique (k : String) : Members → Option (Option Json)
  | [] => some none
  | (k', v) :: ms =>
    if k' = k then if ms.any (·.1 = k) then none else some (some v) else unique k ms

/-- A member that has to be there. -/
def required (c : Serde α) (ms : Members) (k : String) : Option α :=
  (unique k ms).bind fun w => w.bind c.decode

/-- A member of the type `Option`: missing and `null` are read alike. -/
def optional (c : Serde α) (ms : Members) (k : String) : Option (Option α) :=
  (unique k ms).bind fun
    | none | some .null => some none
    | some v => (c.decode v).map some

/-- A member that may be missing and then has the value `a₀`. -/
def defaulted (c : Serde α) (a₀ : α) (ms : Members) (k : String) : Option α :=
  (unique k ms).bind fun w => w.elim (some a₀) c.decode

/-- An optional member is written as `null` when there is no value. -/
def ofOption (c : Serde α) : Option α → Json
  | some a => c.encode a
  | none => .null

/-! What a reader finds among members that were written. -/

section
variable {c : Serde α} {ms : Members} {k : String} {a : α}

theorem unique_cons_self (v : Json) (h : ms.any (·.1 = k) = false) :
    unique k ((k, v) :: ms) = some (some v) := by
  rw [unique, if_pos rfl, h]
  rfl

theorem unique_cons_of_ne {k' : String} (v : Json) (h : k' ≠ k) :
    unique k ((k', v) :: ms) = unique k ms := by
  rw [unique, if_neg h]

theorem required_of_unique (h : unique k ms = some (some (c.encode a))) :
    required c ms k = some a := by
  rw [required, h, Option.bind_some, Option.bind_some, c.decode_encode]

theorem optional_of_unique {o : Option α} (h : unique k ms = some (some (ofOption c o))) :
    optional c ms k = some o := by
  rw [optional, h, Option.bind_some]
  cases o with
  | none => rfl
  | some a =>
    split
    · next heq => cases heq
    · next heq => exact absurd (Option.some.inj heq) (c.encode_ne_null a)
    · next v _ heq =>
      rw [← Option.some.inj heq, ofOption, c.decode_encode, Option.map_some]

theorem defaulted_of_unique {a₀ : α} (h : unique k ms = some (some (c.encode a))) :
    defaulted c a₀ ms k = some a := by
  rw [defaulted, h, Option.bind_some, Option.elim_some, c.decode_encode]

/-- Members of other keys make no difference. -/
theorem unique_append {extra : Members} (h : ∀ m ∈ extra, m.1 ≠ k) (ms : Members) :
    unique k (ms ++ extra) = unique k ms := by
  have hextra : ∀ ms : Members, (∀ m ∈ ms, m.1 ≠ k) → unique k ms = some none := by
    intro ms
    induction ms with
    | nil => exact fun _ => rfl
    | cons m ms ih =>
      intro hms
      obtain ⟨hm, hms⟩ := List.forall_mem_cons.mp hms
      exact (unique_cons_of_ne m.2 hm).trans (ih hms)
  have hany : extra.any (fun m => decide (m.1 = k)) = false := by
    rw [List.any_eq_false]
    intro m hm
    simpa using h m hm
  induction ms with
  | nil => exact hextra extra h
  | cons m ms ih => rw [List.cons_append, unique, unique, List.any_append, hany, Bool.or_false, ih]

theorem required_append {extra : Members} (h : ∀ m ∈ extra, m.1 ≠ k) (c : Serde α)
    (ms : Members) : required c (ms ++ extra) k = required c ms k := by
  rw [required, unique_append h, required]

theorem optional_append {extra : Members} (h : ∀ m ∈ extra, m.1 ≠ k) (c : Serde α)
    (ms : Members) : optional c (ms ++ extra) k = optional c ms k := by
  rw [optional, unique_append h, optional]

theorem defaulted_append {extra : Members} (h : ∀ m ∈ extra, m.1 ≠ k) (c : Serde α) (a₀ : α)
    (ms : Members) : defaulted c a₀ (ms ++ extra) k = defaulted c a₀ ms k := by
  rw [defaulted, unique_append h, defaulted]

@[simp] theorem plain_ofOption (c : Serde α) (o : Option α) :
    JsonText.plain (ofOption c o) = true := by
  cases o with
  | none => rfl
  | some a => exact c.plain_encode a

end

end Members

/-- An object with the name of a variant in the member `type`, as `#[serde(tag = "type")]` writes
it. -/
def Json.tagged (type : String) (ms : Members) : Json := .object (("type", .string type) :: ms)

/-- The name in the member `type`, and the other members. -/
def Json.untag (v : Json) : Option (String × Members) := do
  let ms ← v.asObject
  let type ← Members.required .string ms "type"
  return (type, ms.filter (·.1 ≠ "type"))

theorem Json.untag_tagged {type : String} {ms : Members} (h : ∀ m ∈ ms, m.1 ≠ "type") :
    (Json.tagged type ms).untag = some (type, ms) := by
  have hnone : ms.any (fun m => decide (m.1 = "type")) = false := by
    rw [List.any_eq_false]
    intro m hm
    simpa using h m hm
  have hfilter : ms.filter (fun m => decide (m.1 ≠ "type")) = ms := by
    rw [List.filter_eq_self]
    intro m hm
    simpa using h m hm
  have htype : Members.required .string (("type", .string type) :: ms) "type" = some type :=
    Members.required_of_unique (Members.unique_cons_self _ hnone)
  have hothers : List.filter (fun m => decide (m.1 ≠ "type")) (("type", Json.string type) :: ms) =
      ms := by
    rw [List.filter_cons_of_neg (by simp), hfilter]
  rw [untag, tagged]
  simp only [asObject_object, Option.bind_eq_bind, Option.bind_some, htype, hothers,
    Option.pure_def]

/-! ## Natural numbers and maps -/

/-- An unsigned integer that the model has as a natural number. -/
def Json.ofNat (n : Nat) : Json := Serde.u64.encode (UInt64.ofNat n)

/-- A natural number below a bound. -/
def Json.natBelow (bound : Nat) (v : Json) : Option Nat :=
  (Serde.u64.decode v).bind fun n => if n.toNat < bound then some n.toNat else none

theorem Json.natBelow_ofNat {n : Nat} (h : n < 2 ^ 32) :
    Json.natBelow (2 ^ 32) (.ofNat n) = some n := by
  have hn : (UInt64.ofNat n).toNat = n := by
    rw [UInt64.toNat_ofNat', Nat.mod_eq_of_lt (by omega)]
  rw [natBelow, ofNat, Serde.u64.decode_encode, Option.bind_some, hn, if_pos h]

namespace Json
variable {V : Type} {f : V → Json} {g : Json → Option V}

/-- A hash map, in some order of its keys. -/
def ofMap (f : V → Json) (m : Map String V) : Json :=
  .object (m.entries.map fun q => (q.1, f q.2))

/-- A member of an object goes into the map that was read so far. -/
def insertMember (g : Json → Option V) (m : Map String V) (q : String × Json) :
    Option (Map String V) :=
  (g q.2).map fun a => m.insert q.1 a

def toMap (g : Json → Option V) (v : Json) : Option (Map String V) :=
  v.asObject.bind fun ms => ms.foldlM (insertMember g) ∅

/-- The members are read one after the other, and no key stands twice. -/
theorem foldlM_insertMember {l : List (Sigma fun _ : String => V)} (hkeys : l.NodupKeys)
    (h : ∀ q ∈ l, g (f q.2) = some q.2) (m : Map String V) :
    ∃ m', (l.map fun q => (q.1, f q.2)).foldlM (insertMember g) m = some m' ∧
      ∀ k, m'.lookup k = (l.dlookup k).or (m.lookup k) := by
  induction l generalizing m with
  | nil => exact ⟨m, rfl, fun k => rfl⟩
  | cons q l ih =>
    obtain ⟨hq, hl⟩ := List.forall_mem_cons.mp h
    obtain ⟨hnew, hkeys⟩ := List.nodupKeys_cons.mp hkeys
    obtain ⟨m', hm', hlookup⟩ := ih hkeys hl (m.insert q.1 q.2)
    refine ⟨m', ?_, fun k => ?_⟩
    · rw [List.map_cons, List.foldlM_cons, insertMember, hq, Option.map_some,
        Option.bind_eq_bind, Option.bind_some, hm']
    · rw [hlookup k, AList.lookup_insert_eq_ite]
      by_cases hk : k = q.1
      · have hnone : l.dlookup k = none := by
          rw [hk]
          exact List.dlookup_eq_none.mpr hnew
        rw [if_pos hk, hnone, Option.none_or, hk]
        exact (congrArg (Option.or · _) (List.dlookup_cons_eq l q.1 q.2)).symm
      · rw [if_neg hk]
        exact (congrArg (Option.or · _) (List.dlookup_cons_ne l q hk)).symm

theorem toMap_ofMap {m : Map String V}
    (h : ∀ k a, m.lookup k = some a → g (f a) = some a) :
    ∃ m', toMap g (ofMap f m) = some m' ∧ ∀ k, m'.lookup k = m.lookup k := by
  obtain ⟨m', hm', hlookup⟩ := foldlM_insertMember (f := f) (g := g)
    m.nodupKeys (fun q hq => h q.1 q.2 (AList.mem_entries_iff.mp hq)) ∅
  refine ⟨m', ?_, fun k => ?_⟩
  · rw [toMap, ofMap, asObject_object, Option.bind_some, hm']
  · rw [hlookup k, AList.lookup_empty, Option.or_none]
    exact rfl

theorem plain_ofMap (h : ∀ a, JsonText.plain (f a) = true) (m : Map String V) :
    JsonText.plain (ofMap f m) = true := by
  rw [ofMap, JsonText.plain]
  induction m.entries with
  | nil => rfl
  | cons q l ih => rw [List.map_cons, JsonText.plainMembers, h, ih, Bool.and_self]

end Json

end GreaterWill
