import PhaseSplit.Text.Glyph

/-!
# Name patterns

Patterns for file names: a star stands for any run of characters, a question mark for one
character, and a bracket for one character of a class.  Everything else stands for itself.

* `NamePattern.read` — the pattern that a text writes;
* `NamePattern.accepts` — whether a name fits a pattern;
* `NamePattern.accepts_read_iff` — a text without special characters is a pattern for itself alone.
-/

namespace PhaseSplit

/-- An item of a bracket: one character, or a range from one character to another. -/
inductive ClassItem
  | one (g : Glyph)
  | range (low high : Glyph)
  deriving DecidableEq

/-- The characters that a bracket names, or all others. -/
structure GlyphClass where
  negated : Bool
  items : List ClassItem
  deriving DecidableEq

/-- One part of a pattern. -/
inductive PatternPart
  | anyRun
  | anyOne
  | oneOf (c : GlyphClass)
  | exactly (g : Glyph)
  deriving DecidableEq

/-- A pattern for names. -/
abbrev NamePattern := List PatternPart

/-- Whether an item names a glyph. -/
def ClassItem.holds (g : Glyph) : ClassItem → Bool
  | one h => g == h
  | range low high => low.code ≤ g.code && g.code ≤ high.code

/-- Whether an item names no glyph, as a range from a later character to an earlier one. -/
def ClassItem.isEmpty : ClassItem → Bool
  | one _ => false
  | range low high => high.code < low.code

/-- Whether a glyph belongs to a class. -/
def GlyphClass.holds (c : GlyphClass) (g : Glyph) : Bool :=
  c.items.any (·.holds g) != c.negated

namespace NamePattern

/-! ## Reading -/

/-- The items between brackets: two glyphs with a hyphen between them, or one glyph alone. -/
def readItems : Text → List ClassItem
  | [] => []
  | low :: .char '-' :: high :: rest => .range low high :: readItems rest
  | g :: rest => .one g :: readItems rest

/-- The class between brackets.  An exclamation mark at the start negates it.  The mark may come to
the start because the ranges before it are empty; a hyphen after it then stands for itself. -/
def readClass (body : Text) : GlyphClass :=
  if body.head? = some (.char '!') then ⟨true, readItems body.tail⟩
  else
    match (readItems body).filter (!·.isEmpty) with
    | .one (.char '!') :: items => ⟨true, items⟩
    | .range (.char '!') high :: items => ⟨true, .one (.char '-') :: .one high :: items⟩
    | items => ⟨false, items⟩

/-- The number of glyphs at the start of a bracket's body that cannot close it. -/
def openingLength (afterOpening : Text) : Nat :=
  let negation := if afterOpening.head? = some (.char '!') then 1 else 0
  if (afterOpening.drop negation).head? = some (.char ']') then negation + 1 else negation

/-- The body of a bracket, if it is closed: up to the first closing bracket, which stands for
itself at the start of the body. -/
def bracketBody? (afterOpening : Text) : Option Text :=
  let start := openingLength afterOpening
  let inner := (afterOpening.drop start).takeWhile (· ≠ .char ']')
  if (afterOpening.drop start).contains (.char ']') then some (afterOpening.take start ++ inner)
  else none

/-- The pattern that a text writes; the first `skipped` glyphs belong to a bracket that has been
read. -/
def readFrom : (skipped : Nat) → Text → NamePattern
  | _, [] => []
  | skipped + 1, _ :: rest => readFrom skipped rest
  | 0, g :: rest =>
    if g = .char '*' then .anyRun :: readFrom 0 rest
    else if g = .char '?' then .anyOne :: readFrom 0 rest
    else if g = .char '[' then
      match bracketBody? rest with
      | some body => .oneOf (readClass body) :: readFrom (body.length + 1) rest
      | none => .exactly g :: readFrom 0 rest
    else .exactly g :: readFrom 0 rest

/-- The pattern that a text writes. -/
def read (t : Text) : NamePattern := readFrom 0 t

/-! ## Fitting -/

/-- Whether a name fits a pattern. -/
def accepts : NamePattern → Text → Bool
  | [], t => t.isEmpty
  | .anyRun :: parts, [] => accepts parts []
  | .anyRun :: parts, g :: t => accepts parts (g :: t) || accepts (.anyRun :: parts) t
  | .anyOne :: parts, _ :: t => accepts parts t
  | .oneOf c :: parts, g :: t => c.holds g && accepts parts t
  | .exactly e :: parts, g :: t => e == g && accepts parts t
  | _ :: _, [] => false
termination_by parts t => (parts.length, t.length)

/-! ## Plain texts -/

/-- Whether a glyph has a meaning of its own in patterns. -/
def isSpecial (g : Glyph) : Bool := g = .char '*' || g = .char '?' || g = .char '['

/-- Whether a text has a glyph with a meaning of its own. -/
def hasSpecial (t : Text) : Bool := t.any isSpecial

theorem read_of_not_hasSpecial {t : Text} (h : hasSpecial t = false) :
    read t = t.map .exactly := by
  unfold read
  induction t with
  | nil => rfl
  | cons g t ih =>
    simp only [hasSpecial, List.any_cons, Bool.or_eq_false_iff] at h
    simp only [isSpecial, Bool.or_eq_false_iff, decide_eq_false_iff_not] at h
    rw [readFrom, if_neg h.1.1.1, if_neg h.1.1.2, if_neg h.1.2, List.map_cons, ih h.2]

theorem accepts_map_exactly (t name : Text) : accepts (t.map .exactly) name = (t == name) := by
  induction t generalizing name with
  | nil => cases name <;> simp [accepts]
  | cons g t ih => cases name <;> simp [accepts, ih]

/-- A text without special characters is a pattern for itself alone. -/
theorem accepts_read_iff {t : Text} (h : hasSpecial t = false) (name : Text) :
    accepts (read t) name = true ↔ t = name := by
  rw [read_of_not_hasSpecial h, accepts_map_exactly, beq_iff_eq]

/-- A pattern of a star and a plain end is for the names with this end. -/
theorem accepts_anyRun_iff {t : Text} (h : hasSpecial t = false) (name : Text) :
    accepts (.anyRun :: read t) name = true ↔ t <:+ name := by
  induction name with
  | nil => rw [accepts, accepts_read_iff h, List.suffix_nil]
  | cons g name ih =>
    rw [accepts, Bool.or_eq_true, accepts_read_iff h, ih, List.suffix_cons_iff]

end NamePattern

end PhaseSplit
