import Mathlib.Data.List.Basic

/-! Header lines as text. A line is a field name, a colon and a value; field names are compared
without regard to case, and the value starts behind the blanks that follow the colon. -/

namespace HeaderLine

/-- The field name of a line, in lower case. -/
def fieldName (line : String) : List Char := (line.toList.takeWhile (· != ':')).map Char.toLower

def fieldValue (line : String) : List Char :=
  ((line.toList.dropWhile (· != ':')).drop 1).dropWhile (· == ' ')

def Named (name line : String) : Bool := fieldName line == name.toList.map Char.toLower

/-- The values of the lines called `name`, in order. -/
def valuesOf (name : String) (headers : List String) : List (List Char) :=
  (headers.filter (Named name)).map fieldValue

/-- The number a text of decimal digits stands for. -/
def decimalValue (text : List Char) : Option Nat :=
  if text ≠ [] ∧ text.all Char.isDigit then some (Nat.ofDigitChars 10 text 0) else none

theorem fieldName_line {name : String} (value : String) (hname : ':' ∉ name.toList) :
    fieldName (name ++ ": " ++ value) = name.toList.map Char.toLower := by
  have hall : ∀ c ∈ name.toList, (c != ':') = true := by
    intro c hc
    rw [bne_iff_ne]
    rintro rfl
    exact hname hc
  have hcolon : (": ".toList ++ value.toList).takeWhile (· != ':') = [] := rfl
  rw [fieldName, String.toList_append, String.toList_append, List.append_assoc,
    List.takeWhile_append_of_pos hall, hcolon, List.append_nil]

theorem fieldValue_line {name : String} (value : String) (hname : ':' ∉ name.toList) :
    fieldValue (name ++ ": " ++ value) = value.toList.dropWhile (· == ' ') := by
  have hall : ∀ c ∈ name.toList, (c != ':') = true := by
    intro c hc
    rw [bne_iff_ne]
    rintro rfl
    exact hname hc
  rw [fieldValue, String.toList_append, String.toList_append, List.append_assoc,
    List.dropWhile_append_of_pos hall]
  rfl

theorem named_line {name : String} (wanted value : String) (hname : ':' ∉ name.toList) :
    Named wanted (name ++ ": " ++ value) =
      (name.toList.map Char.toLower == wanted.toList.map Char.toLower) := by
  rw [Named, fieldName_line value hname]

theorem valuesOf_append (name : String) (left right : List String) :
    valuesOf name (left ++ right) = valuesOf name left ++ valuesOf name right := by
  rw [valuesOf, List.filter_append, List.map_append]
  rfl

@[simp] theorem valuesOf_nil (name : String) : valuesOf name [] = [] := rfl

theorem valuesOf_cons_of_named {name line : String} (headers : List String)
    (h : Named name line = true) :
    valuesOf name (line :: headers) = fieldValue line :: valuesOf name headers := by
  rw [valuesOf, List.filter_cons_of_pos h, List.map_cons]
  rfl

theorem valuesOf_eq_nil {name : String} {headers : List String}
    (h : ∀ line ∈ headers, Named name line = false) : valuesOf name headers = [] := by
  rw [valuesOf, List.filter_eq_nil_iff.mpr fun line hline => by simp [h line hline]]
  rfl

theorem isDigit_of_mem_toString {n : Nat} {c : Char} (hc : c ∈ (toString n).toList) :
    c.isDigit = true := by
  rw [Nat.toString_eq_repr, Nat.toList_repr] at hc
  exact Nat.isDigit_of_mem_toDigits (by decide) (by decide) hc

/-- The decimal rendering of a number is read back as that number. -/
theorem decimalValue_toString (n : Nat) : decimalValue (toString n).toList = some n := by
  have hdigits : (toString n).toList = Nat.toDigits 10 n := by
    rw [Nat.toString_eq_repr, Nat.toList_repr]
  have hall : (toString n).toList.all Char.isDigit = true :=
    List.all_eq_true.mpr fun _ hc => isDigit_of_mem_toString hc
  rw [decimalValue, if_pos ⟨by rw [hdigits]; exact Nat.toDigits_ne_nil, hall⟩, hdigits,
    Nat.ofDigitChars_toDigits (by decide) (by decide)]

/-- A number's rendering has no leading blank to skip. -/
theorem dropWhile_blank_toString (n : Nat) :
    (toString n).toList.dropWhile (· == ' ') = (toString n).toList := by
  cases htext : (toString n).toList with
  | nil => rfl
  | cons c rest =>
      have hdigit := isDigit_of_mem_toString (n := n) (c := c) (by rw [htext]; exact List.mem_cons_self)
      have hblank : (c == ' ') = false := by
        rw [beq_eq_false_iff_ne]
        rintro rfl
        exact absurd hdigit (by decide)
      rw [List.dropWhile_cons, hblank]
      rfl

end HeaderLine
