/-
  Foundation/Json.lean --- JSON documents, their texts, and what a text determines.

  A document is its value; a number is kept as the literal it is written with.
  A text that a program hands to a JSON reader is represented by what the reader
  makes of it, so texts that differ in blanks and key order only are one.
-/
import Mathlib.Data.List.Basic

namespace HiAgent.Foundation

/-- A JSON value. -/
inductive Json where
  | null
  | bool (value : Bool)
  | number (literal : String)
  | string (value : String)
  | array (items : List Json)
  | object (fields : List (String × Json))

/-- A text, as a JSON reader sees it. -/
inductive JsonText where
  | empty
  | document (value : Json)
  /-- Not a JSON document. -/
  | other (text : String)

end HiAgent.Foundation

namespace HiAgent.Foundation.Json

/-! ## Printing -/

/-- How a text is laid out. -/
structure Layout where
  /-- What stands behind a comma or a colon. -/
  blank : List Char
  /-- A character inside a string. -/
  escape : Char → List Char
  /-- No character is written as the beginning of another. -/
  escape_inj : ∀ {c d : Char} {r s : List Char}, escape c ++ r = escape d ++ s → c = d ∧ r = s
  /-- No character is written as the end of the string. -/
  escape_ne_quote : ∀ {c : Char} {r s : List Char}, escape c ++ r ≠ '\x22' :: s

variable (layout : Layout)

def quote (text : String) : List Char :=
  '\x22' :: (text.toList.flatMap layout.escape ++ ['\x22'])

mutual

/-- The text of a document. -/
def print : Json → List Char
  | null => ['n', 'u', 'l', 'l']
  | bool true => ['t', 'r', 'u', 'e']
  | bool false => ['f', 'a', 'l', 's', 'e']
  | number literal => literal.toList
  | string value => quote layout value
  | array items => '[' :: printItems items
  | object fields => '{' :: printFields fields

def printItems : List Json → List Char
  | [] => [']']
  | item :: rest => print item ++ printMoreItems rest

def printMoreItems : List Json → List Char
  | [] => [']']
  | item :: rest => ',' :: (layout.blank ++ (print item ++ printMoreItems rest))

def printFields : List (String × Json) → List Char
  | [] => ['}']
  | (key, value) :: rest =>
    quote layout key ++ ':' :: (layout.blank ++ (print value ++ printMoreFields rest))

/-- The fields after the first. -/
def printMoreFields : List (String × Json) → List Char
  | [] => ['}']
  | (key, value) :: rest =>
    ',' :: (layout.blank ++ (quote layout key ++
      ':' :: (layout.blank ++ (print value ++ printMoreFields rest))))

end

/-! ## Documents whose numbers are numbers -/

def ends (c : Char) : Bool := c == ',' || c == ']' || c == '}'

def leads (c : Char) : Bool := c.isDigit || c == '-' || c == 'N' || c == 'I'

def IsLiteral : List Char → Prop
  | [] => False
  | c :: rest => leads c = true ∧ ∀ d ∈ c :: rest, ends d = false

mutual

/-- The numbers of the document are literals. -/
def Numeric : Json → Prop
  | number literal => IsLiteral literal.toList
  | array items => NumericItems items
  | object fields => NumericFields fields
  | _ => True

def NumericItems : List Json → Prop
  | [] => True
  | item :: rest => Numeric item ∧ NumericItems rest

def NumericFields : List (String × Json) → Prop
  | [] => True
  | (_, value) :: rest => Numeric value ∧ NumericFields rest

end

theorem numericFields_iff {fields : List (String × Json)} :
    NumericFields fields ↔ ∀ field ∈ fields, Numeric field.2 := by
  induction fields with
  | nil => simp [NumericFields]
  | cons field fields ih => simp [NumericFields, ih]

def Stops : List Char → Prop
  | [] => True
  | c :: _ => ends c = true

/-! ## Strings -/

variable {layout} {r s : List Char}

/-- Escapes are read back up to the closing quote. -/
theorem escaped_inj {text other : List Char} (h : text.flatMap layout.escape ++ '\x22' :: r =
      other.flatMap layout.escape ++ '\x22' :: s) : text = other ∧ r = s := by
  induction text generalizing other with
  | nil =>
    cases other with
    | nil => exact ⟨rfl, List.tail_eq_of_cons_eq h⟩
    | cons d rest =>
      rw [List.flatMap_cons, List.append_assoc] at h
      exact absurd h.symm layout.escape_ne_quote
  | cons c text ih =>
    rw [List.flatMap_cons, List.append_assoc] at h
    cases other with
    | nil => exact absurd h layout.escape_ne_quote
    | cons d other =>
      rw [List.flatMap_cons, List.append_assoc] at h
      obtain ⟨rfl, hrest⟩ := layout.escape_inj h
      obtain ⟨rfl, hend⟩ := ih hrest
      exact ⟨rfl, hend⟩

theorem quote_inj {text other : String}
    (h : quote layout text ++ r = quote layout other ++ s) : text = other ∧ r = s := by
  simp only [quote, List.cons_append, List.append_assoc, List.nil_append,
    List.cons.injEq, true_and] at h
  obtain ⟨htext, hrest⟩ := escaped_inj h
  exact ⟨String.toList_inj.mp htext, hrest⟩

/-! ## Numbers -/

theorem literal_inj {literal other r s : List Char} (hliteral : ∀ c ∈ literal, ends c = false)
    (hother : ∀ c ∈ other, ends c = false) (hr : Stops r) (hs : Stops s)
    (h : literal ++ r = other ++ s) : literal = other ∧ r = s := by
  induction literal generalizing other with
  | nil =>
    cases other with
    | nil => exact ⟨rfl, h⟩
    | cons d other =>
      obtain rfl : r = d :: (other ++ s) := h
      rw [Stops, hother d List.mem_cons_self] at hr
      cases hr
  | cons c literal ih =>
    cases other with
    | nil =>
      obtain rfl : c :: (literal ++ r) = s := h
      rw [Stops, hliteral c List.mem_cons_self] at hs
      cases hs
    | cons d other =>
      obtain ⟨rfl, hrest⟩ := List.cons.inj h
      obtain ⟨rfl, hend⟩ := ih (fun e he => hliteral e (List.mem_cons_of_mem _ he))
        (fun e he => hother e (List.mem_cons_of_mem _ he)) hrest
      exact ⟨rfl, hend⟩

/-! ## The first character -/

/-- The constructor of a document. -/
def kind : Json → Nat
  | null => 0
  | bool _ => 1
  | number _ => 2
  | string _ => 3
  | array _ => 4
  | object _ => 5

/-- The constructor a document has that begins with a character. -/
def kindOf (c : Char) : Option Nat :=
  if c = 'n' then some 0
  else if c = 't' || c = 'f' then some 1
  else if leads c then some 2
  else if c = '\x22' then some 3
  else if c = '[' then some 4
  else if c = '{' then some 5
  else Option.none

theorem kindOf_of_leads {c : Char} (h : leads c = true) : kindOf c = some 2 := by
  have hnull : c ≠ 'n' := by
    intro hc
    rw [hc] at h
    exact absurd h (by decide)
  have hbool : ¬ (c = 't' || c = 'f') = true := by
    intro hc
    simp only [Bool.or_eq_true, decide_eq_true_eq] at hc
    rcases hc with hc | hc
    all_goals
      rw [hc] at h
      exact absurd h (by decide)
  rw [kindOf, if_neg hnull, if_neg hbool, if_pos h]

theorem exists_print (layout : Layout) {value : Json} (h : Numeric value) :
    ∃ c rest, print layout value = c :: rest ∧ kindOf c = some (kind value) := by
  cases value with
  | bool value =>
    cases value with
    | _ => exact ⟨_, _, rfl, rfl⟩
  | number literal =>
    rw [Numeric] at h
    cases hchars : literal.toList with
    | nil =>
      rw [hchars] at h
      exact h.elim
    | cons c rest =>
      rw [hchars] at h
      exact ⟨c, rest, by rw [print, hchars], kindOf_of_leads h.1⟩
  | _ => exact ⟨_, _, rfl, rfl⟩

theorem kind_eq {value other : Json} (hvalue : Numeric value) (hother : Numeric other)
    (h : print layout value ++ r = print layout other ++ s) : kind value = kind other := by
  obtain ⟨c, rest, hprint, hkind⟩ := exists_print layout hvalue
  obtain ⟨d, more, hprintOther, hkindOther⟩ := exists_print layout hother
  rw [hprint, hprintOther] at h
  obtain ⟨rfl, -⟩ := List.cons.inj h
  exact Option.some.inj (hkind.symm.trans hkindOther)

theorem print_ne_close {value : Json} (hvalue : Numeric value) :
    print layout value ++ r ≠ ']' :: s := by
  intro h
  obtain ⟨c, rest, hprint, hkind⟩ := exists_print layout hvalue
  rw [hprint] at h
  obtain ⟨rfl, -⟩ := List.cons.inj h
  cases hkind

theorem stops_printMoreItems (items : List Json) (r : List Char) :
    Stops (printMoreItems layout items ++ r) := by
  cases items with
  | nil => exact (by decide : ends ']' = true)
  | cons item rest => exact (by decide : ends ',' = true)

theorem stops_printMoreFields (fields : List (String × Json)) (r : List Char) :
    Stops (printMoreFields layout fields ++ r) := by
  cases fields with
  | nil => exact (by decide : ends '}' = true)
  | cons field rest => exact (by decide : ends ',' = true)

theorem more_of_printItems {items others : List Json} (hitems : NumericItems items)
    (hothers : NumericItems others)
    (h : printItems layout items ++ r = printItems layout others ++ s) :
    printMoreItems layout items ++ r = printMoreItems layout others ++ s := by
  cases items with
  | nil =>
    cases others with
    | nil => exact h
    | cons other others =>
      rw [printItems, printItems, List.append_assoc] at h
      exact absurd h.symm (print_ne_close hothers.1)
  | cons item items =>
    cases others with
    | nil =>
      rw [printItems, printItems, List.append_assoc] at h
      exact absurd h (print_ne_close hitems.1)
    | cons other others => simpa [printItems, printMoreItems] using h

theorem more_of_printFields {fields others : List (String × Json)}
    (h : printFields layout fields ++ r = printFields layout others ++ s) :
    printMoreFields layout fields ++ r = printMoreFields layout others ++ s := by
  cases fields with
  | nil =>
    cases others with
    | nil => exact h
    | cons other others => simp [printFields, quote] at h
  | cons field fields =>
    cases others with
    | nil => simp [printFields, quote] at h
    | cons other others => simpa [printFields, printMoreFields] using h

/-! ## Documents -/

mutual

/-- A text is the text of one value. -/
theorem print_inj (value other : Json) (hvalue : Numeric value) (hother : Numeric other)
    {r s : List Char} (hr : Stops r) (hs : Stops s)
    (h : print layout value ++ r = print layout other ++ s) : value = other ∧ r = s := by
  have hkind := kind_eq hvalue hother h
  cases value with
  | null =>
    cases other with
    | null => simpa [print] using h
    | _ => simp [kind] at hkind
  | bool value =>
    cases other with
    | bool other =>
      cases value with
      | true =>
        cases other with
        | true => simpa [print] using h
        | false => simp [print] at h
      | false =>
        cases other with
        | true => simp [print] at h
        | false => simpa [print] using h
    | _ => simp [kind] at hkind
  | number literal =>
    cases other with
    | number other =>
      rw [Numeric] at hvalue hother
      have hends : ∀ text : List Char, IsLiteral text → ∀ c ∈ text, ends c = false := by
        intro text hliteral
        cases text with
        | nil => exact hliteral.elim
        | cons c rest => exact hliteral.2
      rw [print, print] at h
      obtain ⟨hliteral, hrest⟩ := literal_inj (hends _ hvalue) (hends _ hother) hr hs h
      exact ⟨congrArg number (String.toList_inj.mp hliteral), hrest⟩
    | _ => simp [kind] at hkind
  | string value =>
    cases other with
    | string other =>
      rw [print, print] at h
      obtain ⟨htext, hrest⟩ := quote_inj h
      exact ⟨congrArg string htext, hrest⟩
    | _ => simp [kind] at hkind
  | array items =>
    cases other with
    | array others =>
      rw [Numeric] at hvalue hother
      rw [print, print] at h
      obtain ⟨hitems, hrest⟩ :=
        printMoreItems_inj items others hvalue hother
          (more_of_printItems hvalue hother (List.tail_eq_of_cons_eq h))
      exact ⟨congrArg array hitems, hrest⟩
    | _ => simp [kind] at hkind
  | object fields =>
    cases other with
    | object others =>
      rw [Numeric] at hvalue hother
      rw [print, print] at h
      obtain ⟨hfields, hrest⟩ :=
        printMoreFields_inj fields others hvalue hother
          (more_of_printFields (List.tail_eq_of_cons_eq h))
      exact ⟨congrArg object hfields, hrest⟩
    | _ => simp [kind] at hkind
termination_by structural value

theorem printMoreItems_inj (items others : List Json) (hitems : NumericItems items)
    (hothers : NumericItems others) {r s : List Char}
    (h : printMoreItems layout items ++ r = printMoreItems layout others ++ s) :
    items = others ∧ r = s := by
  cases items with
  | nil =>
    cases others with
    | nil => simpa [printMoreItems] using h
    | cons other others => simp [printMoreItems] at h
  | cons item items =>
    cases others with
    | nil => simp [printMoreItems] at h
    | cons other others =>
      simp only [printMoreItems, List.cons_append, List.append_assoc, List.cons.injEq,
        true_and, List.append_cancel_left_eq] at h
      obtain ⟨rfl, hmore⟩ := print_inj item other hitems.1 hothers.1
        (stops_printMoreItems _ _) (stops_printMoreItems _ _) h
      obtain ⟨rfl, hrest⟩ := printMoreItems_inj items others hitems.2 hothers.2 hmore
      exact ⟨rfl, hrest⟩
termination_by structural items

theorem printMoreFields_inj (fields others : List (String × Json))
    (hfields : NumericFields fields) (hothers : NumericFields others) {r s : List Char}
    (h : printMoreFields layout fields ++ r = printMoreFields layout others ++ s) :
    fields = others ∧ r = s := by
  cases fields with
  | nil =>
    cases others with
    | nil => simpa [printMoreFields] using h
    | cons other others => simp [printMoreFields] at h
  | cons field fields =>
    obtain ⟨key, value⟩ := field
    cases others with
    | nil => simp [printMoreFields] at h
    | cons other others =>
      obtain ⟨otherKey, other⟩ := other
      simp only [printMoreFields, List.cons_append, List.append_assoc, List.cons.injEq,
        true_and, List.append_cancel_left_eq] at h
      obtain ⟨rfl, hvalue⟩ := quote_inj h
      simp only [List.cons.injEq, true_and, List.append_cancel_left_eq] at hvalue
      obtain ⟨rfl, hmore⟩ := print_inj value other hfields.1 hothers.1
        (stops_printMoreFields _ _) (stops_printMoreFields _ _) hvalue
      obtain ⟨rfl, hrest⟩ := printMoreFields_inj fields others hfields.2 hothers.2 hmore
      exact ⟨rfl, hrest⟩
termination_by structural fields

end

theorem eq_of_print_eq {value other : Json} (hvalue : Numeric value) (hother : Numeric other)
    (h : print layout value = print layout other) : value = other := by
  have hempty : print layout value ++ [] = print layout other ++ [] := by rw [h]
  exact (print_inj (r := []) (s := []) value other hvalue hother trivial trivial hempty).1

end HiAgent.Foundation.Json
