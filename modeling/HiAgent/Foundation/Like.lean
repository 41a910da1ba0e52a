/-
  Foundation/Like.lean --- `LIKE ... ESCAPE` of SQLite, and `fnmatch.fnmatch`.

  Pattern and text are read up to their first NUL. Letters of ASCII match in either case, `%`
  matches any run of characters and `_` any one; a character behind the escape character stands
  for itself. In `fnmatch`, `*` stands for any run of characters, `?` for any one, `[seq]` for
  one of a sequence, `[!seq]` for one that is not in it.
-/
import HiAgent.Foundation.Text
import Mathlib.Data.List.Infix

namespace HiAgent.Foundation

open List

namespace Like

def same (c d : Char) : Bool :=
  c == d ||
    (Text.lowerChar c == Text.lowerChar d && decide (c.toNat < 128) && decide (d.toNat < 128))

def cString (text : List Char) : List Char := text.takeWhile fun c => c.toNat != 0

/-- `patternCompare`, of strings without a NUL. -/
def compare (escape : Char) : List Char → List Char → Bool
  | [], text => text.isEmpty
  | c :: pattern, text =>
    if c = '%' then text.tails.any fun rest => compare escape pattern rest
    else if c = escape then
      match pattern, text with
      | literal :: pattern, d :: text => same literal d && compare escape pattern text
      | _, _ => false
    else
      match text with
      | d :: text => (same c d || c == '_') && compare escape pattern text
      | [] => false

/-- `text LIKE pattern ESCAPE escape`. -/
def like (escape : Char) (pattern text : List Char) : Bool :=
  compare escape (cString pattern) (cString text)

/-- `text.replace(c, by)`, for one character. -/
def replace (c : Char) (by_ : List Char) (text : List Char) : List Char :=
  text.flatMap fun d => if d = c then by_ else [d]

def escaped (text : List Char) : List Char :=
  replace '_' ['\\', '_'] (replace '%' ['\\', '%'] (replace '\\' ['\\', '\\'] text))

/-! ## Texts that begin alike -/

def behind : List Char → List Char → Option (List Char)
  | [], text => some text
  | c :: start, d :: text => if same c d then behind start text else none
  | _ :: _, [] => none

theorem same_self (c : Char) : same c c = true := by
  simp [same]

theorem behind_append_self (start text : List Char) : behind start (start ++ text) = some text := by
  induction start with
  | nil => rfl
  | cons c start ih => rw [cons_append, behind, if_pos (same_self c), ih]

def special (c : Char) : Bool := c == '\\' || c == '%' || c == '_'

theorem escaped_cons (c : Char) (text : List Char) :
    escaped (c :: text) = (if special c then ['\\', c] else [c]) ++ escaped text := by
  have hcons : ∀ (d : Char) by_ (x : Char) (rest : List Char),
      replace d by_ (x :: rest) = (if x = d then by_ else [x]) ++ replace d by_ rest :=
    fun _ _ _ _ => rfl
  unfold escaped
  by_cases hback : c = '\\'
  · subst hback
    rfl
  · by_cases hpercent : c = '%'
    · subst hpercent
      rfl
    · by_cases hunder : c = '_'
      · subst hunder
        rfl
      · simp [special, hcons, hback, hpercent, hunder]

theorem compare_escaped (start pattern text : List Char) :
    compare '\\' (escaped start ++ pattern) text =
      (behind start text).any (compare '\\' pattern) := by
  induction start generalizing text with
  | nil => rfl
  | cons c start ih =>
    rw [escaped_cons]
    cases hspecial : special c with
    | true =>
      cases text with
      | nil => rfl
      | cons d text =>
        rw [if_pos rfl, behind]
        change (same c d && compare '\\' (escaped start ++ pattern) text) = _
        rw [ih]
        cases same c d <;> rfl
    | false =>
      simp only [special, Bool.or_eq_false_iff, beq_eq_false_iff_ne] at hspecial
      obtain ⟨⟨hback, hpercent⟩, hunder⟩ := hspecial
      rw [if_neg Bool.false_ne_true, append_assoc, singleton_append, compare.eq_def]
      dsimp only
      rw [if_neg hpercent, if_neg hback]
      cases text with
      | nil => rfl
      | cons d text =>
        rw [behind]
        change ((same c d || c == '_') && compare '\\' (escaped start ++ pattern) text) = _
        rw [ih, beq_eq_false_iff_ne.mpr hunder, Bool.or_false]
        cases same c d <;> rfl

theorem escaped_append (start text : List Char) :
    escaped (start ++ text) = escaped start ++ escaped text := by
  simp [escaped, replace]

theorem compare_escaped_percent (start text : List Char) :
    compare '\\' (escaped start ++ ['%']) text = (behind start text).isSome := by
  have hany : ∀ rest, compare '\\' ['%'] rest = true := by
    intro rest
    exact any_eq_true.mpr ⟨[], (mem_tails _ _).mpr rest.nil_suffix, rfl⟩
  rw [compare_escaped]
  cases behind start text with
  | none => rfl
  | some rest => exact hany rest

/-! ## Strings without a NUL -/

variable {start : List Char}

theorem cString_append (h : (start.all fun c => c.toNat != 0) = true)
    (text : List Char) : cString (start ++ text) = start ++ cString text :=
  takeWhile_append_of_pos (all_eq_true.mp h)

theorem cString_of_all {text : List Char} (h : (text.all fun c => c.toNat != 0) = true) :
    cString text = text := by
  have happend := cString_append h []
  rw [append_nil] at happend
  exact happend.trans (append_nil text)

theorem toNat_of_special {c : Char} (h : special c = true) : (c.toNat != 0) = true := by
  simp only [special, Bool.or_eq_true, beq_iff_eq] at h
  rcases h with (rfl | rfl) | rfl <;> rfl

theorem all_escaped (text : List Char) :
    ((escaped text).all fun c => c.toNat != 0) = text.all fun c => c.toNat != 0 := by
  induction text with
  | nil => rfl
  | cons c text ih =>
    rw [escaped_cons, all_append, ih, all_cons]
    split
    next hspecial =>
      rw [all_cons, all_cons, toNat_of_special hspecial]
      rfl
    next => simp

/-- An escaped text and `%` match what begins like the text. -/
theorem like_escaped_percent (h : (start.all fun c => c.toNat != 0) = true) (text : List Char) :
    like '\\' (escaped start ++ ['%']) text = (behind start (cString text)).isSome := by
  rw [like, cString_append ((all_escaped start).trans h)]
  exact compare_escaped_percent start (cString text)

/-! ## Texts with a separator

The separator matches nothing but itself. A text without it and one with it behind its
first part match only in the whole first part. -/

def alike (first second : List Char) : Bool := behind first second == some []

theorem alike_self (text : List Char) : alike text text = true := by
  have h := behind_append_self text []
  rw [append_nil] at h
  rw [alike, h]
  rfl

def Lone (sep : Char) : Prop := ∀ c, same c sep = true ∨ same sep c = true → c = sep

section Separator

variable {sep : Char} {start owner rest : List Char}

theorem behind_separated (hsep : Lone sep) (hstart : sep ∉ start) (howner : sep ∉ owner) :
    (behind (start ++ [sep]) (owner ++ sep :: rest)).isSome = alike start owner := by
  induction start generalizing owner with
  | nil =>
    cases owner with
    | nil =>
      simp [behind, same_self, alike]
    | cons d owner =>
      have hne : ¬ same sep d = true := fun h =>
        howner (hsep d (.inr h) ▸ mem_cons_self)
      simp [behind, hne, alike]
  | cons c start ih =>
    rw [mem_cons, not_or] at hstart
    cases owner with
    | nil =>
      have hne : ¬ same c sep = true := fun h => hstart.1 (hsep c (.inl h)).symm
      simp [behind, hne, alike]
    | cons d owner =>
      have hnext := ih hstart.2 (fun h => howner (mem_cons_of_mem d h))
      rw [alike] at hnext ⊢
      cases hsame : same c d with
      | false => simp [behind, hsame]
      | true => simpa [behind, hsame] using hnext

theorem behind_of_not_mem (hsep : Lone sep) {text : List Char} (htext : sep ∉ text) :
    behind (start ++ [sep]) text = none := by
  induction start generalizing text with
  | nil =>
    cases text with
    | nil => rfl
    | cons d text =>
      have hne : ¬ same sep d = true := fun h =>
        htext (hsep d (.inr h) ▸ mem_cons_self)
      simp [behind, hne]
  | cons c start ih =>
    cases text with
    | nil => rfl
    | cons d text =>
      have hnext := ih fun h => htext (mem_cons_of_mem d h)
      simp [behind, hnext]

theorem not_alike_of_mem (hsep : Lone sep) {text : List Char} (hstart : sep ∉ start)
    (htext : sep ∈ text) : alike start text = false := by
  induction start generalizing text with
  | nil =>
    cases text with
    | nil => cases htext
    | cons d text => rfl
  | cons c start ih =>
    rw [mem_cons, not_or] at hstart
    cases text with
    | nil => rfl
    | cons d text =>
      rw [alike, behind]
      split
      next hsame =>
        rcases mem_cons.mp htext with rfl | hrest
        · exact absurd (hsep c (.inl hsame)).symm hstart.1
        · exact ih hstart.2 hrest
      next => rfl

end Separator

/-! ## Strings with a NUL -/

theorem cString_append_of_nul (h : ¬ (start.all fun c => c.toNat != 0) = true) (text : List Char) :
    cString (start ++ text) = cString start := by
  induction start with
  | nil => exact absurd rfl h
  | cons c start ih =>
    rw [all_cons, Bool.and_eq_true, not_and] at h
    simp only [cString, cons_append, takeWhile_cons] at ih ⊢
    split
    next hc => rw [ih (h hc)]
    next => rfl

theorem cString_escaped (text : List Char) : cString (escaped text) = escaped (cString text) := by
  induction text with
  | nil => rfl
  | cons c text ih =>
    rw [cString] at ih
    rw [escaped_cons, cString, cString, takeWhile_cons]
    by_cases hc : (c.toNat != 0) = true
    · rw [if_pos hc, escaped_cons]
      split
      · simp [hc, ih, cString]
      · simp [hc, ih, cString]
    · have hplain : special c = false := by
        cases hspecial : special c with
        | false => rfl
        | true => exact absurd (toNat_of_special hspecial) hc
      rw [if_neg hc, hplain]
      simp only [Bool.not_eq_true] at hc
      simp [hc]
      rfl

theorem like_escaped_of_nul
    (h : ¬ (start.all fun c => c.toNat != 0) = true) (pattern text : List Char) :
    like '\\' (escaped start ++ pattern) text = alike (cString start) (cString text) := by
  have hcut : cString (escaped start ++ pattern) = escaped (cString start) ++ [] := by
    rw [cString_append_of_nul (by rwa [all_escaped]), cString_escaped, append_nil]
  rw [like, hcut, compare_escaped, alike]
  cases behind (cString start) (cString text) with
  | none => rfl
  | some rest => cases rest <;> rfl

end Like

namespace Glob

/-- What one piece of a pattern matches. -/
inductive Piece where
  | star
  | any
  | one (c : Char)
  | seq (negated : Bool) (ranges : List (Char × Char))

/-- The ranges of a sequence; a character that is in no range is a range by itself. -/
def ranges : List Char → List (Char × Char)
  | first :: '-' :: last :: rest => (first, last) :: ranges rest
  | c :: rest => (c, c) :: ranges rest
  | [] => []

/-- A text up to the first `]`, and what follows it. -/
def closed : List Char → Option (List Char × List Char)
  | [] => none
  | ']' :: rest => some ([], rest)
  | c :: rest => (closed rest).map fun (inside, behind) => (c :: inside, behind)

/-- The sequence that begins behind a `[`, and what follows it. -/
def sequence (pattern : List Char) : Option (Piece × List Char) :=
  let negated := pattern.head? == some '!'
  match if negated then pattern.tail else pattern with
  | [] => none
  | first :: rest =>
    if first = ']' then
      (closed rest).map fun (inside, behind) => (.seq negated (ranges (first :: inside)), behind)
    else
      (closed (first :: rest)).map fun (inside, behind) => (.seq negated (ranges inside), behind)

/-- The pieces of a pattern, at most `fuel` of them. -/
def pieces : Nat → List Char → List Piece
  | 0, _ | _, [] => []
  | fuel + 1, c :: rest =>
    if c = '*' then .star :: pieces fuel rest
    else if c = '?' then .any :: pieces fuel rest
    else if c = '[' then
      match sequence rest with
      | some (piece, behind) => piece :: pieces fuel behind
      | none => .one c :: pieces fuel rest
    else .one c :: pieces fuel rest

/-- A piece that stands for one character stands for this one. -/
def Piece.accepts (c : Char) : Piece → Bool
  | .star => false
  | .any => true
  | .one d => c == d
  | .seq negated ranges => ranges.any (fun (low, high) => low ≤ c && c ≤ high) != negated

/-- The pieces match the whole text. -/
def matches_ : List Piece → List Char → Bool
  | [], text => text.isEmpty
  | .star :: rest, text => text.tails.any fun behind => matches_ rest behind
  | _ :: _, [] => false
  | piece :: rest, c :: text => piece.accepts c && matches_ rest text

end Glob

/-- `fnmatch.fnmatch(name, pat)`. -/
def fnmatch (name pat : String) : Bool :=
  Glob.matches_ (Glob.pieces pat.length pat.toList) name.toList

example : fnmatch "rm -rf /" "rm -rf *" = true := by decide +kernel

example : fnmatch "a]" "[!b-d][]]" = true := by decide +kernel

end HiAgent.Foundation
