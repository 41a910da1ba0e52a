/-
  Foundation/Text.lean --- trimming of text, its lines, words and parts.

  `strip` removes the white space of Unicode `str` values: the characters with bidirectional
  class WS, B or S or category Zs.
-/
import Mathlib.Data.List.Basic
import Mathlib.Data.String.Basic

namespace HiAgent.Foundation.Text

open List

/-- White space characters. -/
def isSpace (c : Char) : Bool :=
  let n := c.toNat
  (9 ≤ n && n ≤ 13) || (28 ≤ n && n ≤ 32) || n == 0x85 || n == 0xA0 ||
    n == 0x1680 || (0x2000 ≤ n && n ≤ 0x200A) || n == 0x2028 || n == 0x2029 ||
    n == 0x202F || n == 0x205F || n == 0x3000

def strip (s : String) : String :=
  String.ofList
    ((s.toList.dropWhile isSpace).reverse.dropWhile isSpace).reverse

def lowerChar (c : Char) : Char :=
  if 'A' ≤ c && c ≤ 'Z' then Char.ofNat (c.toNat + 32) else c

/-- `s.lower()`, for a text in ASCII. -/
def lower (s : String) : String := String.ofList (s.toList.map lowerChar)

/-- `str.lower`, which is pinned down for texts in ASCII alone: the Kelvin sign gives `k`. -/
structure StrLower where
  apply : String → String
  apply_ascii : ∀ s : String, s.toList.all (·.toNat < 128) = true → apply s = lower s

def StrLower.ascii : StrLower := ⟨lower, fun _ _ => rfl⟩

def upperChar (c : Char) : Char :=
  if 'a' ≤ c && c ≤ 'z' then Char.ofNat (c.toNat - 32) else c

def upper (s : String) : String := String.ofList (s.toList.map upperChar)

def afterPrefix (start s : String) : Option String :=
  if start.toList.isPrefixOf s.toList then
    some (String.ofList (s.toList.drop start.toList.length))
  else none

/-- `s.startswith(start)`. -/
def startsWith (start s : String) : Bool := start.toList.isPrefixOf s.toList

/-- `s[:stop]`: a negative bound counts from the end. -/
def slice (s : String) (stop : Int) : String :=
  let stop := if stop < 0 then stop + s.toList.length else stop
  String.ofList (s.toList.take stop.toNat)

def splitFrom (line : List Char) : List Char → List String
  | [] => [String.ofList line]
  | c :: rest =>
    if c = '\n' then String.ofList line :: splitFrom [] rest else splitFrom (line ++ [c]) rest

/-- `s.split("\n")`. -/
def splitLines (s : String) : List String := splitFrom [] s.toList

/-- `"\n".join(lines)`. -/
def joinLines (lines : List String) : String := String.intercalate "\n" lines

theorem afterPrefix_eq_some_iff {start s rest : String} :
    afterPrefix start s = some rest ↔ s = start ++ rest := by
  unfold afterPrefix
  have htext : s = start ++ rest ↔ s.toList = start.toList ++ rest.toList := by
    rw [← String.toList_inj, String.toList_append]
  rw [htext]
  constructor
  · intro h
    split at h
    · rename_i hprefix
      obtain ⟨tail, htail⟩ := isPrefixOf_iff_prefix.mp hprefix
      rw [← htail, drop_left, Option.some.injEq] at h
      rw [← htail, ← h, String.toList_ofList]
    · cases h
  · intro h
    rw [if_pos ( isPrefixOf_iff_prefix.mpr ⟨rest.toList, h.symm⟩), h,
      drop_left, String.ofList_toList]

@[simp] theorem strip_empty : strip "" = "" := by decide

/-! ## Parts -/

/-- The part that is being read, and the ones behind it. -/
def partsFrom (sep : Char) (part : List Char) : List Char → List String
  | [] => [String.ofList part]
  | c :: rest =>
    if c = sep then String.ofList part :: partsFrom sep [] rest
    else partsFrom sep (part ++ [c]) rest

/-- `s.split(sep)`, by one character. -/
def split (sep : Char) (s : String) : List String := partsFrom sep [] s.toList

/-- `sep.join(parts)`, with one character between the parts. -/
def join (sep : Char) (parts : List String) : String :=
  String.intercalate (String.singleton sep) parts

variable {sep : Char}

theorem partsFrom_append {chars : List Char} (h : sep ∉ chars) (part rest : List Char) :
    partsFrom sep part (chars ++ rest) = partsFrom sep (part ++ chars) rest := by
  induction chars generalizing part with
  | nil => rw [nil_append, append_nil]
  | cons c chars ih =>
    rw [mem_cons, not_or] at h
    rw [cons_append, partsFrom, if_neg (Ne.symm h.1), ih h.2, append_assoc]
    rfl

@[simp] theorem join_nil (sep : Char) : join sep [] = "" := String.intercalate_nil

@[simp] theorem join_singleton (sep : Char) (part : String) : join sep [part] = part :=
  String.intercalate_singleton

theorem toList_join_cons_cons (sep : Char) (first next : String) (rest : List String) :
    (join sep (first :: next :: rest)).toList =
      first.toList ++ sep :: (join sep (next :: rest)).toList := by
  rw [join, String.intercalate_cons_cons, String.toList_append, String.toList_append,
    append_assoc, String.toList_singleton]
  rfl

theorem join_eq_empty_iff {parts : List String} :
    join sep parts = "" ↔ parts = [] ∨ parts = [""] := by
  match parts with
  | [] => simp
  | [part] => simp
  | first :: next :: rest =>
    refine iff_of_false (fun h => ?_) (by simp)
    have hchars := congrArg String.toList h
    rw [toList_join_cons_cons] at hchars
    exact append_ne_nil_of_right_ne_nil _ (cons_ne_nil _ _) hchars

/-- Parts without the separator are split as they were joined. -/
theorem split_join {parts : List String} (hne : parts ≠ [])
    (h : ∀ part ∈ parts, sep ∉ part.toList) : split sep (join sep parts) = parts := by
  induction parts with
  | nil => exact absurd rfl hne
  | cons first rest ih =>
    have hfirst := h first mem_cons_self
    cases rest with
    | nil =>
      have hsplit := partsFrom_append hfirst [] []
      rw [append_nil] at hsplit
      rw [join_singleton, split, hsplit]
      exact congrArg (· :: []) String.ofList_toList
    | cons next rest =>
      have hrest := ih (cons_ne_nil next rest)
        fun part hpart => h part (mem_cons_of_mem first hpart)
      rw [split, toList_join_cons_cons, partsFrom_append hfirst, nil_append, partsFrom,
        if_pos rfl, String.ofList_toList]
      exact congrArg (first :: ·) hrest

theorem not_mem_of_mem_partsFrom {chars part : List Char} (hpart : sep ∉ part)
    {s : String} (h : s ∈ partsFrom sep part chars) : sep ∉ s.toList := by
  induction chars generalizing part with
  | nil =>
    rw [mem_singleton.mp h, String.toList_ofList]
    exact hpart
  | cons c chars ih =>
    rw [partsFrom] at h
    split at h
    · rcases mem_cons.mp h with rfl | h
      · rw [String.toList_ofList]
        exact hpart
      · exact ih not_mem_nil h
    · rename_i hne
      refine ih ?_ h
      rw [mem_append, mem_singleton, not_or]
      exact ⟨hpart, Ne.symm hne⟩

theorem not_mem_of_mem_split {s part : String} (h : part ∈ split sep s) : sep ∉ part.toList :=
  not_mem_of_mem_partsFrom not_mem_nil h

/-! ## Lines -/

theorem splitLines_eq (s : String) : splitLines s = split '\n' s := by
  have hfrom : ∀ chars line, splitFrom line chars = partsFrom '\n' line chars := by
    intro chars
    induction chars with
    | nil => exact fun line => rfl
    | cons c chars ih =>
      intro line
      rw [splitFrom, partsFrom, ih, ih]
  exact hfrom s.toList []

theorem joinLines_eq (lines : List String) : joinLines lines = join '\n' lines := rfl

theorem splitLines_joinLines {lines : List String} (hne : lines ≠ [])
    (h : ∀ line ∈ lines, '\n' ∉ line.toList) : splitLines (joinLines lines) = lines := by
  rw [splitLines_eq, joinLines_eq]
  exact split_join hne h

theorem infix_joinLines {lines : List String} {line : String} (h : line ∈ lines) :
    line.toList <:+: (joinLines lines).toList := by
  induction lines with
  | nil => cases h
  | cons first rest ih =>
    cases rest with
    | nil =>
      have htext : joinLines [first] = first := String.intercalate_singleton
      rw [htext]
      exact mem_singleton.mp h ▸ infix_rfl
    | cons next rest =>
      rw [joinLines_eq, toList_join_cons_cons, ← joinLines_eq]
      rcases mem_cons.mp h with hfirst | hrest
      · rw [hfirst]
        exact (prefix_append _ _).isInfix
      · exact (ih hrest).trans ((suffix_cons _ _).trans (suffix_append _ _)).isInfix

/-! ## Lines and parts -/

def isBreak (c : Char) : Bool :=
  let n := c.toNat
  (10 ≤ n && n ≤ 13) || (28 ≤ n && n ≤ 30) || n == 0x85 || n == 0x2028 || n == 0x2029

/-- The line that is being read, and the ones behind it. -/
def linesFrom (line : List Char) : List Char → List String
  | [] => if line.isEmpty then [] else [String.ofList line]
  | '\r' :: '\n' :: rest => String.ofList line :: linesFrom [] rest
  | c :: rest =>
    if isBreak c then String.ofList line :: linesFrom [] rest else linesFrom (line ++ [c]) rest

/-- `s.splitlines()`. -/
def splitlines (s : String) : List String := linesFrom [] s.toList

/-- `s[s.find(first):s.rfind(last) + 1]`, where both occur and the slice is not empty. -/
def between (first last : Char) (s : String) : Option String :=
  let chars := s.toList
  match chars.idxOf? first, chars.reverse.idxOf? last with
  | some start, some back =>
    if start < chars.length - back then
      some (String.ofList ((chars.take (chars.length - back)).drop start))
    else none
  | _, _ => none

/-- The word that is being read, and the ones behind it. -/
def wordsFrom (word : List Char) : List Char → List String
  | [] => if word.isEmpty then [] else [String.ofList word]
  | c :: rest =>
    if isSpace c then
      if word.isEmpty then wordsFrom [] rest else String.ofList word :: wordsFrom [] rest
    else wordsFrom (word ++ [c]) rest

/-- `s.split()`. -/
def words (s : String) : List String := wordsFrom [] s.toList

/-- `part in s`. -/
def occurs (part s : String) : Bool :=
  (List.range (s.toList.length + 1)).any fun place =>
    part.toList.isPrefixOf (s.toList.drop place)

theorem occurs_iff {part s : String} : occurs part s = true ↔ part.toList <:+: s.toList := by
  rw [occurs, any_eq_true, infix_iff_prefix_suffix]
  constructor
  · rintro ⟨place, -, hplace⟩
    exact ⟨s.toList.drop place, isPrefixOf_iff_prefix.mp hplace, drop_suffix _ _⟩
  · rintro ⟨behind, hfront, hbehind⟩
    refine ⟨s.toList.length - behind.length, mem_range.mpr (by omega), ?_⟩
    rw [← suffix_iff_eq_drop.mp hbehind]
    exact isPrefixOf_iff_prefix.mpr hfront

theorem occurs_self (s : String) : occurs s s = true := occurs_iff.mpr (infix_refl _)

theorem occurs_trans {first second third : String} (hfirst : occurs first second = true)
    (hsecond : occurs second third = true) : occurs first third = true :=
  occurs_iff.mpr ((occurs_iff.mp hfirst).trans (occurs_iff.mp hsecond))

theorem eq_of_occurs {part s : String} (h : occurs part s = true)
    (hlength : s.toList.length ≤ part.toList.length) : part = s :=
  String.toList_injective ((occurs_iff.mp h).eq_of_length_le hlength)

example : words " go  home\n" = ["go", "home"] := by decide +kernel

/-- `items[:limit]`: a negative bound counts from the end. -/
def upTo {α : Type} (limit : Int) (items : List α) : List α :=
  items.take (if limit < 0 then limit + items.length else limit).toNat

theorem upTo_singleton {α : Type} {limit : Int} (hlimit : 1 ≤ limit) (item : α) :
    upTo limit [item] = [item] := by
  rw [upTo, if_neg (by omega)]
  refine take_of_length_le ?_
  rw [length_singleton]
  omega

example : splitlines "a\r\n\nb\n" = ["a", "", "b"] := by decide +kernel

end HiAgent.Foundation.Text

namespace HiAgent.Foundation.Joined

open List

variable {α : Type*}

def Recut (sep : α) (left right left' right' : List α) : Prop :=
  ∃ middle, left' = left ++ sep :: middle ∧ right = middle ++ sep :: right'

variable {sep : α} {left right left' right' : List α}

theorem Recut.ne (h : Recut sep left right left' right') : left ≠ left' := by
  obtain ⟨middle, rfl, -⟩ := h
  simp

theorem Recut.joined_eq (h : Recut sep left right left' right') :
    left ++ sep :: right = left' ++ sep :: right' := by
  obtain ⟨middle, rfl, rfl⟩ := h
  rw [append_assoc, cons_append]

/-- Pairs joined to one text agree, or are cut at different separators of it. -/
theorem joined_eq_iff : left ++ sep :: right = left' ++ sep :: right' ↔
      (left = left' ∧ right = right') ∨ Recut sep left right left' right' ∨
        Recut sep left' right' left right := by
  constructor
  · intro h
    rcases append_eq_append_iff.mp h with ⟨tail, hleft, hright⟩ | ⟨tail, hleft, hright⟩
    · cases tail with
      | nil => exact .inl ⟨by rw [hleft, append_nil], (List.cons.inj hright).2⟩
      | cons c middle =>
        rw [cons_append, List.cons.injEq] at hright
        obtain ⟨rfl, rfl⟩ := hright
        exact .inr (.inl ⟨middle, hleft, rfl⟩)
    · cases tail with
      | nil => exact .inl ⟨by rw [hleft, append_nil], (List.cons.inj hright).2.symm⟩
      | cons c middle =>
        rw [cons_append, List.cons.injEq] at hright
        obtain ⟨rfl, rfl⟩ := hright
        exact .inr (.inr ⟨middle, hleft, rfl⟩)
  · rintro (⟨rfl, rfl⟩ | hrecut | hrecut)
    · rfl
    · exact hrecut.joined_eq
    · exact hrecut.joined_eq.symm

theorem joined_last_eq_iff (hright : sep ∉ right) (hright' : sep ∉ right') :
    left ++ sep :: right = left' ++ sep :: right' ↔ left = left' ∧ right = right' := by
  rw [joined_eq_iff]
  refine ⟨?_, .inl⟩
  rintro (hsame | ⟨middle, -, rfl⟩ | ⟨middle, -, rfl⟩)
  · exact hsame
  · exact absurd (mem_append_right _ mem_cons_self) hright
  · exact absurd (mem_append_right _ mem_cons_self) hright'

theorem joined_first_eq_iff (hleft : sep ∉ left) (hleft' : sep ∉ left') :
    left ++ sep :: right = left' ++ sep :: right' ↔ left = left' ∧ right = right' := by
  rw [joined_eq_iff]
  refine ⟨?_, .inl⟩
  rintro (hsame | ⟨middle, rfl, -⟩ | ⟨middle, rfl, -⟩)
  · exact hsame
  · exact absurd (mem_append_right _ mem_cons_self) hleft'
  · exact absurd (mem_append_right _ mem_cons_self) hleft

/-! ## Texts and colons -/

def Solid (text : String) : Prop := ':' ∉ text.toList

instance (text : String) : Decidable (Solid text) := inferInstanceAs (Decidable (¬ _))

/-- The second pair of texts is the first with the colon between them farther to the
right. -/
def ColonRecut (first last first' last' : String) : Prop :=
  ∃ middle, first' = first ++ ":" ++ middle ∧ last = middle ++ ":" ++ last'

variable {first last first' last' : String}

theorem toList_colon (first last : String) :
    (first ++ ":" ++ last).toList = first.toList ++ ':' :: last.toList := by
  rw [String.toList_append, String.toList_append, append_assoc]
  rfl

theorem colonRecut_iff : ColonRecut first last first' last' ↔
      Recut ':' first.toList last.toList first'.toList last'.toList := by
  constructor
  · rintro ⟨middle, rfl, rfl⟩
    exact ⟨middle.toList, toList_colon _ _, toList_colon _ _⟩
  · rintro ⟨middle, hfirst, hlast⟩
    refine ⟨String.ofList middle, ?_, ?_⟩
    · apply String.toList_inj.mp
      rw [toList_colon, hfirst, String.toList_ofList]
    · apply String.toList_inj.mp
      rw [toList_colon, hlast, String.toList_ofList]

theorem colon_eq_iff : first ++ ":" ++ last = first' ++ ":" ++ last' ↔
      (first = first' ∧ last = last') ∨ ColonRecut first last first' last' ∨
        ColonRecut first' last' first last := by
  rw [← String.toList_inj, toList_colon, toList_colon, joined_eq_iff, colonRecut_iff,
    colonRecut_iff, String.toList_inj, String.toList_inj]

theorem colon_last_eq_iff (hlast : Solid last) (hlast' : Solid last') :
    first ++ ":" ++ last = first' ++ ":" ++ last' ↔ first = first' ∧ last = last' := by
  rw [← String.toList_inj, toList_colon, toList_colon, joined_last_eq_iff hlast hlast',
    String.toList_inj, String.toList_inj]

theorem colon_first_eq_iff (hfirst : Solid first) (hfirst' : Solid first') :
    first ++ ":" ++ last = first' ++ ":" ++ last' ↔ first = first' ∧ last = last' := by
  rw [← String.toList_inj, toList_colon, toList_colon, joined_first_eq_iff hfirst hfirst',
    String.toList_inj, String.toList_inj]

end HiAgent.Foundation.Joined
