/-
  Foundation/PyValue/Dumps.lean --- `json.dumps` by way of the document it writes.

  What a value is written as is a JSON document first and a text afterwards. So values with the
  same text have the same document.
-/
import HiAgent.Foundation.Json
import HiAgent.Foundation.PyValue
import Mathlib.Tactic.SplitIfs

namespace HiAgent.Foundation

open List

/-! ## The decimal text of an integer -/

section Decimal

theorem toList_toString (value : Int) : (toString value).toList =
      if 0 ≤ value then Nat.toDigits 10 value.toNat else '-' :: Nat.toDigits 10 (-value).toNat := by
  rw [Int.toString_eq_repr, Int.repr_eq_if]
  split
  · exact Nat.toList_repr
  · rw [String.toList_append, Nat.toList_repr]
    rfl

theorem toDigits_inj {m n : Nat} (h : Nat.toDigits 10 m = Nat.toDigits 10 n) : m = n := by
  have hback : ∀ k : Nat, Nat.ofDigitChars 10 (Nat.toDigits 10 k) 0 = k := fun k =>
    Nat.ofDigitChars_toDigits (by decide) (by decide)
  rw [← hback m, h, hback n]

theorem isDigit_of_mem_digits {n : Nat} {c : Char} (h : c ∈ Nat.toDigits 10 n) : c.isDigit = true :=
  Nat.isDigit_of_mem_toDigits (by decide) (by decide) h

theorem mem_toString {value : Int} {c : Char} (h : c ∈ (toString value).toList) :
    c.isDigit = true ∨ c = '-' := by
  rw [toList_toString] at h
  split at h
  · exact .inl (isDigit_of_mem_digits h)
  · rcases mem_cons.mp h with hsign | hdigit
    · exact .inr hsign
    · exact .inl (isDigit_of_mem_digits hdigit)

theorem toString_inj {value other : Int} (h : toString value = toString other) : value = other := by
  have hminus : ∀ {n : Nat} {rest : List Char}, Nat.toDigits 10 n ≠ '-' :: rest := by
    intro n rest hdigits
    have hdigit := isDigit_of_mem_digits (n := n) (c := '-') (by simp [hdigits])
    exact absurd hdigit (by decide)
  have hchars := congrArg String.toList h
  rw [toList_toString, toList_toString] at hchars
  split at hchars
  · split at hchars
    · have hnat := toDigits_inj hchars
      omega
    · exact absurd hchars hminus
  · split at hchars
    · exact absurd hchars.symm hminus
    · have hnat := toDigits_inj (tail_eq_of_cons_eq hchars)
      omega

end Decimal

namespace PyValue

/-! ## Layouts -/

/-- A character inside a string, given which ones are written as they are. -/
def written (plain : Char → Bool) (c : Char) : List Char :=
  let n := c.toNat
  if n = 34 then ['\\', '\x22']
  else if n = 92 then ['\\', '\\']
  else if n = 10 then ['\\', 'n']
  else if n = 13 then ['\\', 'r']
  else if n = 9 then ['\\', 't']
  else if n = 12 then ['\\', 'f']
  else if n = 8 then ['\\', 'b']
  else if plain c then [c]
  else if n < 0x10000 then '\\' :: 'u' :: (hex4 n).toList
  else
    -- a surrogate pair
    '\\' :: 'u' :: ((hex4 (0xd800 + (n - 0x10000) / 1024)).toList ++
      '\\' :: 'u' :: (hex4 (0xdc00 + (n - 0x10000) % 1024)).toList)

/-- `ensure_ascii=True`. -/
def ascii (c : Char) : Bool := decide (32 ≤ c.toNat ∧ c.toNat ≤ 126)

/-- `ensure_ascii=False`. -/
def unicode (c : Char) : Bool := decide (32 ≤ c.toNat)

/-! ## A character is told from what follows it -/

def hexValue (c : Char) : Nat := if c.toNat < 58 then c.toNat - 48 else c.toNat - 87

def unit (a b c d : Char) : Nat :=
  ((hexValue a * 16 + hexValue b) * 16 + hexValue c) * 16 + hexValue d

theorem hexValue_digit :
    ∀ k < 16, hexValue (Char.ofNat (if k < 10 then 48 + k else 87 + k)) = k := by decide

theorem exists_hex4 {n : Nat} (h : n < 0x10000) :
    ∃ a b c d, (hex4 n).toList = [a, b, c, d] ∧ unit a b c d = n := by
  refine ⟨_, _, _, _, String.toList_ofList, ?_⟩
  unfold unit
  rw [hexValue_digit _ (Nat.mod_lt _ (by decide)), hexValue_digit _ (Nat.mod_lt _ (by decide)),
    hexValue_digit _ (Nat.mod_lt _ (by decide)), hexValue_digit _ (Nat.mod_lt _ (by decide))]
  omega

def paired (high : Nat) : List Char → Option (Char × List Char)
  | _ :: _ :: a :: b :: c :: d :: rest =>
    some (Char.ofNat (0x10000 + (high - 0xd800) * 1024 + (unit a b c d - 0xdc00)), rest)
  | _ => Option.none

/-- The character of an escape, and what follows it. -/
def unescaped : List Char → Option (Char × List Char)
  | [] => Option.none
  | 'u' :: a :: b :: c :: d :: rest =>
    if unit a b c d < 0xd800 ∨ 0xdc00 ≤ unit a b c d then
      some (Char.ofNat (unit a b c d), rest)
    else paired (unit a b c d) rest
  | 'n' :: rest => some (Char.ofNat 10, rest)
  | 'r' :: rest => some (Char.ofNat 13, rest)
  | 't' :: rest => some (Char.ofNat 9, rest)
  | 'f' :: rest => some (Char.ofNat 12, rest)
  | 'b' :: rest => some (Char.ofNat 8, rest)
  | c :: rest => some (c, rest)

def unwritten : List Char → Option (Char × List Char)
  | [] => Option.none
  | c :: rest => if c = '\\' then unescaped rest else some (c, rest)

theorem unwritten_unit {a b c d : Char} (rest : List Char)
    (h : unit a b c d < 0xd800 ∨ 0xdc00 ≤ unit a b c d) :
    unwritten ('\\' :: 'u' :: a :: b :: c :: d :: rest) =
      some (Char.ofNat (unit a b c d), rest) := by
  rw [unwritten, if_pos rfl, unescaped, if_pos h]

theorem unwritten_pair {a b c d : Char} (e f g h : Char) (rest : List Char)
    (hhigh : ¬ (unit a b c d < 0xd800 ∨ 0xdc00 ≤ unit a b c d)) :
    unwritten ('\\' :: 'u' :: a :: b :: c :: d :: '\\' :: 'u' :: e :: f :: g :: h :: rest) =
      some (Char.ofNat (0x10000 + (unit a b c d - 0xd800) * 1024 + (unit e f g h - 0xdc00)),
        rest) := by
  rw [unwritten, if_pos rfl, unescaped, if_neg hhigh, paired]

theorem unwritten_plain {c : Char} (rest : List Char) (h : c.toNat ≠ 92) :
    unwritten (c :: rest) = some (c, rest) := by
  rw [unwritten, if_neg]
  intro hc
  exact h (congrArg Char.toNat hc)

theorem eq_ofNat {c : Char} {n : Nat} (h : c.toNat = n) : c = Char.ofNat n := by
  rw [← h, Char.ofNat_toNat]

theorem unwritten_basic {c : Char} (rest : List Char) (h : c.toNat < 0x10000) :
    unwritten ('\\' :: 'u' :: ((hex4 c.toNat).toList ++ rest)) = some (c, rest) := by
  have hvalid : c.toNat < 0xd800 ∨ 0xdfff < c.toNat ∧ c.toNat < 0x110000 := c.valid
  obtain ⟨a, b, d, e, hdigits, hunit⟩ := exists_hex4 h
  rw [hdigits]
  refine (unwritten_unit rest (by omega)).trans ?_
  rw [hunit, Char.ofNat_toNat]

theorem unwritten_astral {c : Char} {high low : Nat} (rest : List Char)
    (h : ¬ c.toNat < 0x10000) (hhigh : high = 0xd800 + (c.toNat - 0x10000) / 1024)
    (hlow : low = 0xdc00 + (c.toNat - 0x10000) % 1024) :
    unwritten ('\\' :: 'u' :: ((hex4 high).toList ++
      '\\' :: 'u' :: ((hex4 low).toList ++ rest))) = some (c, rest) := by
  have hvalid : c.toNat < 0xd800 ∨ 0xdfff < c.toNat ∧ c.toNat < 0x110000 := c.valid
  obtain ⟨a, b, d, e, hhighDigits, hhighUnit⟩ := exists_hex4 (show high < 0x10000 by omega)
  obtain ⟨f, g, i, j, hlowDigits, hlowUnit⟩ := exists_hex4 (show low < 0x10000 by omega)
  rw [hhighDigits, hlowDigits]
  refine (unwritten_pair f g i j rest (by omega)).trans ?_
  have hchar : c.toNat =
      0x10000 + (unit a b d e - 0xd800) * 1024 + (unit f g i j - 0xdc00) := by omega
  rw [← hchar, Char.ofNat_toNat]

/-- A character is read back as it was written. -/
theorem unwritten_written (plain : Char → Bool) (c : Char) (rest : List Char) :
    unwritten (written plain c ++ rest) = some (c, rest) := by
  unfold written
  dsimp only
  split_ifs with hquote hslash hnewline hreturn htab hfeed hback hplain hbasic
  · rw [eq_ofNat hquote]
    rfl
  · rw [eq_ofNat hslash]
    rfl
  · rw [eq_ofNat hnewline]
    rfl
  · rw [eq_ofNat hreturn]
    rfl
  · rw [eq_ofNat htab]
    rfl
  · rw [eq_ofNat hfeed]
    rfl
  · rw [eq_ofNat hback]
    rfl
  · exact unwritten_plain rest hslash
  · rw [cons_append, cons_append]
    exact unwritten_basic rest hbasic
  · rw [cons_append, cons_append, append_assoc, cons_append, cons_append]
    exact unwritten_astral rest hbasic rfl rfl

theorem exists_written (plain : Char → Bool) (c : Char) :
    ∃ d rest, written plain c = d :: rest ∧ d ≠ '\x22' := by
  have hslash : '\\' ≠ '\x22' := by decide
  unfold written
  dsimp only
  split_ifs with hquote
  · exact ⟨_, _, rfl, hslash⟩
  · exact ⟨_, _, rfl, hslash⟩
  · exact ⟨_, _, rfl, hslash⟩
  · exact ⟨_, _, rfl, hslash⟩
  · exact ⟨_, _, rfl, hslash⟩
  · exact ⟨_, _, rfl, hslash⟩
  · exact ⟨_, _, rfl, hslash⟩
  · exact ⟨_, _, rfl, fun hc => hquote (congrArg Char.toNat hc)⟩
  · exact ⟨_, _, rfl, hslash⟩
  · exact ⟨_, _, rfl, hslash⟩

/-- The layout of a text. -/
def layout (plain : Char → Bool) (blank : List Char) : Json.Layout where
  blank := blank
  escape := written plain
  escape_inj := by
    intro c d r s h
    have hread := unwritten_written plain c r
    rw [h, unwritten_written] at hread
    obtain ⟨hchar, hrest⟩ := Prod.mk.inj (Option.some.inj hread)
    exact ⟨hchar.symm, hrest.symm⟩
  escape_ne_quote := by
    intro c r s h
    obtain ⟨d, rest, hwritten, hne⟩ := exists_written plain c
    rw [hwritten] at h
    exact hne (List.cons.inj h).1

/-! ## Documents -/

mutual

/-- The document that `json.dumps` writes. -/
def toJson (sortKeys : Bool) : PyValue → Except Raised Json
  | none => .ok .null
  | bool value => .ok (.bool value)
  | int value => (printInt value).map .number
  | float value => .ok (.number (dumpsFloat value))
  | str value => .ok (.string value)
  | list items => (toJsonItems sortKeys items).map .array
  | dict fields =>
    (toJsonFields sortKeys fields).map fun fields =>
      .object (if sortKeys then fields.insertionSort fun left right => left.1 ≤ right.1
        else fields)
  | other _ _ => .error .typeError

/-- The documents of the items of a list. -/
def toJsonItems (sortKeys : Bool) : List PyValue → Except Raised (List Json)
  | [] => .ok []
  | item :: items =>
    (toJson sortKeys item).bind fun document =>
      (toJsonItems sortKeys items).map (document :: ·)

/-- The documents of the fields of a dictionary, in the order they are given. -/
def toJsonFields (sortKeys : Bool) : PyDict → Except Raised (List (String × Json))
  | [] => .ok []
  | (key, value) :: fields =>
    (toJson sortKeys value).bind fun document =>
      (toJsonFields sortKeys fields).map ((key, document) :: ·)

end

/-- `json.dumps(value, ensure_ascii=…, sort_keys=…, separators=…)`. -/
def dumpsAs (layout : Json.Layout) (sortKeys : Bool) (value : PyValue) : Except Raised String :=
  (toJson sortKeys value).map fun document => String.ofList (Json.print layout document)

/-- The default separators, with `ensure_ascii`. -/
def defaultLayout : Json.Layout := layout ascii [' ']

/-! ## What the text determines -/

theorem isLiteral_toString (value : Int) : Json.IsLiteral (toString value).toList := by
  have hends : ∀ c ∈ (toString value).toList, Json.ends c = false := by
    intro c hc
    rcases mem_toString hc with hdigit | hsign
    · by_contra hend
      simp only [Json.ends, Bool.not_eq_false, Bool.or_eq_true, beq_iff_eq] at hend
      rcases hend with (hend | hend) | hend
      all_goals
        rw [hend] at hdigit
        exact absurd hdigit (by decide)
    · rw [hsign]
      decide
  cases hchars : (toString value).toList with
  | nil => exact absurd (String.toList_inj.mp hchars) (toString_int_ne value)
  | cons c rest =>
    rw [hchars] at hends
    refine ⟨?_, hends⟩
    have hfirst : c ∈ (toString value).toList := by
      rw [hchars]
      exact mem_cons_self
    rcases mem_toString hfirst with hdigit | hsign
    · simp [Json.leads, hdigit]
    · simp [Json.leads, hsign]

mutual

/-- Every `float` in the value is printed as a number. -/
def FloatsPrinted : PyValue → Prop
  | float value => Json.IsLiteral (dumpsFloat value).toList
  | list items => FloatsPrintedItems items
  | dict fields => FloatsPrintedFields fields
  | _ => True

/-- Every `float` in the items. -/
def FloatsPrintedItems : List PyValue → Prop
  | [] => True
  | item :: items => FloatsPrinted item ∧ FloatsPrintedItems items

/-- Every `float` in the fields. -/
def FloatsPrintedFields : PyDict → Prop
  | [] => True
  | (_, value) :: fields => FloatsPrinted value ∧ FloatsPrintedFields fields

end

theorem isLiteral_of_printInt {value : Int} {text : String} (h : printInt value = .ok text) :
    Json.IsLiteral text.toList := by
  unfold printInt at h
  split at h
  · obtain rfl := Except.ok.inj h
    exact isLiteral_toString value
  · cases h

mutual

theorem numeric_toJson {sortKeys : Bool} (value : PyValue) {document : Json}
    (hfloats : FloatsPrinted value) (h : toJson sortKeys value = .ok document) :
    Json.Numeric document := by
  cases value with
  | int value =>
    rw [toJson, map_eq_ok_iff] at h
    obtain ⟨text, hprint, rfl⟩ := h
    exact isLiteral_of_printInt hprint
  | float value =>
    obtain rfl := Except.ok.inj h
    exact hfloats
  | list items =>
    rw [toJson, map_eq_ok_iff] at h
    obtain ⟨documents, hitems, rfl⟩ := h
    exact numeric_toJsonItems items hfloats hitems
  | dict fields =>
    rw [toJson, map_eq_ok_iff] at h
    obtain ⟨documents, hfields, rfl⟩ := h
    have hnumeric := numeric_toJsonFields fields hfloats hfields
    rw [Json.Numeric, Json.numericFields_iff]
    intro field hfield
    apply Json.numericFields_iff.mp hnumeric
    split at hfield
    · exact (perm_insertionSort _ documents).mem_iff.mp hfield
    · exact hfield
  | other identity truth => cases h
  | _ =>
    obtain rfl := Except.ok.inj h
    trivial
termination_by structural value

theorem numeric_toJsonItems {sortKeys : Bool} (items : List PyValue) {documents : List Json}
    (hfloats : FloatsPrintedItems items) (h : toJsonItems sortKeys items = .ok documents) :
    Json.NumericItems documents := by
  cases items with
  | nil =>
    obtain rfl := Except.ok.inj h
    trivial
  | cons item items =>
    rw [toJsonItems, bind_eq_ok_iff] at h
    obtain ⟨document, hitem, hrest⟩ := h
    rw [map_eq_ok_iff] at hrest
    obtain ⟨rest, hitems, rfl⟩ := hrest
    exact ⟨numeric_toJson item hfloats.1 hitem, numeric_toJsonItems items hfloats.2 hitems⟩
termination_by structural items

theorem numeric_toJsonFields {sortKeys : Bool} (fields : PyDict)
    {documents : List (String × Json)} (hfloats : FloatsPrintedFields fields)
    (h : toJsonFields sortKeys fields = .ok documents) : Json.NumericFields documents := by
  cases fields with
  | nil =>
    obtain rfl := Except.ok.inj h
    trivial
  | cons field fields =>
    obtain ⟨key, value⟩ := field
    rw [toJsonFields, bind_eq_ok_iff] at h
    obtain ⟨document, hvalue, hrest⟩ := h
    rw [map_eq_ok_iff] at hrest
    obtain ⟨rest, hfields, rfl⟩ := hrest
    exact ⟨numeric_toJson value hfloats.1 hvalue, numeric_toJsonFields fields hfloats.2 hfields⟩
termination_by structural fields

end

variable {sortKeys : Bool}

theorem toJson_eq_of_dumpsAs_eq {layout : Json.Layout}
    {value other : PyValue} {text : String} (hvalue : FloatsPrinted value)
    (hother : FloatsPrinted other) (h : dumpsAs layout sortKeys value = .ok text)
    (h' : dumpsAs layout sortKeys other = .ok text) :
    toJson sortKeys value = toJson sortKeys other := by
  rw [dumpsAs, map_eq_ok_iff] at h h'
  obtain ⟨document, hdoc, htext⟩ := h
  obtain ⟨otherDocument, hotherDocument, hotherText⟩ := h'
  rw [hdoc, hotherDocument]
  apply congrArg Except.ok
  have hprint := String.ofList_injective (htext.trans hotherText.symm)
  exact Json.eq_of_print_eq (numeric_toJson value hvalue hdoc)
    (numeric_toJson other hother hotherDocument) hprint

/-! ## Dictionaries of the same keys -/

theorem map_fst_of_toJsonFields {fields : PyDict}
    {documents : List (String × Json)} (h : toJsonFields sortKeys fields = .ok documents) :
    documents.map Prod.fst = fields.map Prod.fst := by
  induction fields generalizing documents with
  | nil =>
    obtain rfl := Except.ok.inj h
    rfl
  | cons field fields ih =>
    obtain ⟨key, value⟩ := field
    rw [toJsonFields, bind_eq_ok_iff] at h
    obtain ⟨document, -, hrest⟩ := h
    rw [map_eq_ok_iff] at hrest
    obtain ⟨rest, hfields, rfl⟩ := hrest
    exact congrArg (key :: ·) (ih hfields)

theorem succeeds_toJsonFields_iff {fields : PyDict} :
    Succeeds (toJsonFields sortKeys fields) ↔
      ∀ field ∈ fields, Succeeds (toJson sortKeys field.2) := by
  induction fields with
  | nil => simp [toJsonFields]
  | cons field fields ih =>
    obtain ⟨key, value⟩ := field
    simp only [toJsonFields, succeeds_bind_iff, succeeds_map_iff, ih, forall_mem_cons]
    constructor
    · rintro ⟨document, hvalue, hrest⟩
      exact ⟨⟨document, hvalue⟩, hrest⟩
    · rintro ⟨⟨document, hvalue⟩, hrest⟩
      exact ⟨document, hvalue, hrest⟩

theorem succeeds_dumpsAs_dict_iff {layout : Json.Layout} {fields : PyDict} :
    Succeeds (dumpsAs layout sortKeys (.dict fields)) ↔
      ∀ field ∈ fields, Succeeds (toJson sortKeys field.2) := by
  rw [dumpsAs, succeeds_map_iff, toJson, succeeds_map_iff, succeeds_toJsonFields_iff]

theorem eq_of_perm_of_map_fst {fields others : List (String × Json)} (hperm : fields.Perm others)
    (hkeys : fields.map Prod.fst = others.map Prod.fst) (hnodup : (fields.map Prod.fst).Nodup) :
    fields = others := by
  induction fields generalizing others with
  | nil => exact hperm.nil_eq
  | cons field fields ih =>
    cases others with
    | nil => exact absurd hperm.length_eq (by simp)
    | cons other others =>
      rw [map_cons, map_cons, List.cons.injEq] at hkeys
      rw [map_cons, nodup_cons] at hnodup
      have hfirst : field = other := by
        rcases mem_cons.mp (hperm.mem_iff.mp mem_cons_self) with heq | hlater
        · exact heq
        · exact absurd (hkeys.2 ▸ mem_map_of_mem hlater) hnodup.1
      rw [hfirst] at hperm ⊢
      rw [ih (hperm.cons_inv) hkeys.2 hnodup.2]

theorem forall₂_of_toJson_dict {keys : List String} {fields others : PyDict}
    {document : Json} (hnodup : keys.Nodup) (hfieldKeys : fields.map Prod.fst = keys)
    (hotherKeys : others.map Prod.fst = keys) (h : toJson true (.dict fields) = .ok document)
    (h' : toJson true (.dict others) = .ok document) :
    List.Forall₂ (fun field other => toJson true field.2 = toJson true other.2) fields others := by
  rw [toJson, map_eq_ok_iff] at h h'
  obtain ⟨documents, hfields, rfl⟩ := h
  obtain ⟨otherDocuments, hothers, hobject⟩ := h'
  have hsame : otherDocuments = documents := by
    have hsorted := Json.object.inj hobject
    rw [if_pos rfl, if_pos rfl] at hsorted
    apply eq_of_perm_of_map_fst
    · exact (perm_insertionSort _ _).symm.trans
        (hsorted ▸ perm_insertionSort _ documents)
    · rw [map_fst_of_toJsonFields hothers, map_fst_of_toJsonFields hfields, hotherKeys, hfieldKeys]
    · rw [map_fst_of_toJsonFields hothers, hotherKeys]
      exact hnodup
  rw [hsame] at hothers
  clear hobject hsame hnodup hfieldKeys hotherKeys
  induction fields generalizing others documents with
  | nil =>
    obtain rfl := Except.ok.inj hfields
    cases others with
    | nil => exact .nil
    | cons other others =>
      have hkeys := map_fst_of_toJsonFields hothers
      exact absurd hkeys (by simp)
  | cons field fields ih =>
    obtain ⟨key, value⟩ := field
    rw [toJsonFields, bind_eq_ok_iff] at hfields
    obtain ⟨first, hvalue, hrest⟩ := hfields
    rw [map_eq_ok_iff] at hrest
    obtain ⟨rest, hfields, rfl⟩ := hrest
    cases others with
    | nil => cases hothers
    | cons other others =>
      obtain ⟨otherKey, other⟩ := other
      rw [toJsonFields, bind_eq_ok_iff] at hothers
      obtain ⟨otherFirst, hother, hotherRest⟩ := hothers
      rw [map_eq_ok_iff] at hotherRest
      obtain ⟨more, hothers, hdocs⟩ := hotherRest
      rw [List.cons.injEq, Prod.mk.injEq] at hdocs
      obtain ⟨⟨-, rfl⟩, rfl⟩ := hdocs
      exact .cons (hvalue.trans hother.symm) (ih _ hfields hothers)

end PyValue

end HiAgent.Foundation
