import SensorHmi.Lib.Octets

/-!
# Header lines

Header fields as lines `name: value` that end in CR LF, and the reader that takes such a text
apart again. `parse_text` says that it finds the fields the text was made of.
-/

namespace HeaderLines

/-- The line of a field. -/
def line (name value : Bytes) : Bytes :=
  name ++ 58 :: 32 :: value ++ [13, 10]

/-- The lines of the fields, in order. -/
def text (fields : List (Bytes × Bytes)) : Bytes :=
  fields.flatMap fun field => line field.1 field.2

/-- The complete lines of a text, the first of them behind `current`. -/
def lines : (current : Bytes) → Bytes → List Bytes
  | _, [] => []
  | current, 13 :: 10 :: rest => current :: lines [] rest
  | current, octet :: rest => lines (current ++ [octet]) rest

/-- The name and the value of a line; blanks before the value do not count. -/
def field (line : Bytes) : Option (Bytes × Bytes) :=
  match line.dropWhile (· ≠ 58) with
  | [] => none
  | _ :: value => some (line.takeWhile (· ≠ 58), value.dropWhile (· = 32))

/-- The fields of a text. -/
def parse (text : Bytes) : List (Bytes × Bytes) :=
  (lines [] text).filterMap field

/-- A field that its line does not change: no line end in it, no colon in its name, and no blank
before its value. -/
structure WellFormed (field : Bytes × Bytes) : Prop where
  name_colon : ∀ octet ∈ field.1, octet ≠ 58
  name_cr : ∀ octet ∈ field.1, octet ≠ 13
  value_cr : ∀ octet ∈ field.2, octet ≠ 13
  value_blank : field.2.head? ≠ some 32

variable {fields : List (Bytes × Bytes)}

/-- Octets without a CR are read into the current line. -/
theorem lines_append {octets : Bytes} (h : ∀ octet ∈ octets, octet ≠ 13) (current rest : Bytes) :
    lines current (octets ++ 13 :: 10 :: rest) = (current ++ octets) :: lines [] rest := by
  induction octets generalizing current with
  | nil =>
      rw [List.nil_append, List.append_nil]
      rfl
  | cons octet tail ih =>
      have hoctet : octet ≠ 13 := h octet List.mem_cons_self
      have hstep : lines current (octet :: (tail ++ 13 :: 10 :: rest)) =
          lines (current ++ [octet]) (tail ++ 13 :: 10 :: rest) := by
        rw [lines]
        rintro later rfl
        exact absurd rfl hoctet
      rw [List.cons_append, hstep, ih fun other hmem => h other (List.mem_cons_of_mem _ hmem),
        List.append_assoc]
      rfl

/-- The line of a field is read back. -/
theorem field_line {name value : Bytes} (h : WellFormed (name, value)) :
    field (name ++ 58 :: 32 :: value) = some (name, value) := by
  have hname : ∀ octet ∈ name, decide (octet ≠ 58) = true :=
    fun octet hmem => decide_eq_true (h.name_colon octet hmem)
  have hvalue : (32 :: value).dropWhile (· = 32) = value := by
    cases value with
    | nil => rfl
    | cons octet rest =>
        have hoctet : octet ≠ 32 := fun hblank => h.value_blank (by rw [hblank]; rfl)
        simp [hoctet]
  simp only [field, List.dropWhile_append_of_pos hname, List.takeWhile_append_of_pos hname]
  simpa using hvalue

/-- The fields of the text of well-formed fields are these fields. -/
theorem parse_text (h : ∀ field ∈ fields, WellFormed field) : parse (text fields) = fields := by
  induction fields with
  | nil => rfl
  | cons first rest ih =>
      obtain ⟨name, value⟩ := first
      have hfirst := h _ List.mem_cons_self
      have hcr : ∀ octet ∈ name ++ 58 :: 32 :: value, octet ≠ 13 := by
        intro octet hmem
        rcases List.mem_append.mp hmem with hname | hvalue
        · exact hfirst.name_cr octet hname
        · rcases List.mem_cons.mp hvalue with rfl | hvalue
          · decide
          · rcases List.mem_cons.mp hvalue with rfl | hvalue
            · decide
            · exact hfirst.value_cr octet hvalue
      have htext : text ((name, value) :: rest) =
          (name ++ 58 :: 32 :: value) ++ 13 :: 10 :: text rest := by
        simp only [text, line, List.flatMap_cons, List.append_assoc, List.cons_append,
          List.nil_append]
      have hrest := ih fun field hmem => h field (List.mem_cons_of_mem _ hmem)
      rw [parse] at hrest
      rw [htext, parse, lines_append hcr, List.nil_append, List.filterMap_cons,
        field_line hfirst, hrest]

/-- A field of a list without repeated names is the first of its name. -/
theorem find?_of_mem (hnames : (fields.map Prod.fst).Nodup) {name value : Bytes}
    (h : (name, value) ∈ fields) :
    (fields.find? fun field => field.1 = name) = some (name, value) := by
  induction fields with
  | nil => cases h
  | cons first rest ih =>
      rw [List.map_cons, List.nodup_cons] at hnames
      rcases List.mem_cons.mp h with rfl | hrest
      · exact List.find?_cons_of_pos (decide_eq_true rfl)
      · have hother : first.1 ≠ name := by
          rintro rfl
          exact hnames.1 (List.mem_map.mpr ⟨_, hrest, rfl⟩)
        rw [List.find?_cons_of_neg (by simpa using hother)]
        exact ih hnames.2 hrest

end HeaderLines
