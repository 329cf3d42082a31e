import Mathlib.Data.List.Basic
import RouteAtlas.Text.CharClass

/-!
# Filling templates

A template is a text in which a dollar sign begins a placeholder, `$name` or `${name}`, and two stand for
one. `filled` puts values in the place of placeholders in one pass from left to right. The lemmas say
what it makes of fixed text, in which dollar signs are doubled, and of placeholders in braces: whatever
values it inserts, it goes on behind them.
-/

namespace RouteAtlas.Text.Template

/-- Why a template cannot be filled. -/
inductive TemplateFault where
  /-- A dollar sign begins nothing. -/
  | invalid
  /-- A name has no value. -/
  | unknown (name : List Char)
deriving Repr, DecidableEq, Inhabited

/-- A character that names begin with. -/
def isNameStart (c : Char) : Bool := isAsciiLetter c || c == '_'

/-- A character of names. -/
def isNameChar (c : Char) : Bool := isNameStart c || isAsciiDigit c

/-- The name that a text begins with, and what stands behind it. -/
def readName (cs : List Char) : Option (List Char × List Char) :=
  let name := cs.takeWhile isNameChar
  if name.head?.any isNameStart then some (name, cs.drop name.length) else none

/-- The placeholder that a text begins with, without its dollar sign, and what stands behind it. -/
def readPlaceholder : List Char → Option (List Char × List Char)
  | '\x7b' :: r =>
    match readName r with
    | some (name, '\x7d' :: rest) => some (name, rest)
    | _ => none
  | r => readName r

/-- Reading a name adds no characters. -/
theorem length_of_readName {cs name rest : List Char} (h : readName cs = some (name, rest)) :
    rest.length ≤ cs.length := by
  unfold readName at h
  dsimp only at h
  split at h
  · obtain ⟨-, rfl⟩ := Prod.mk.inj (Option.some.inj h)
    rw [List.length_drop]
    exact Nat.sub_le _ _
  · cases h

/-- Reading a placeholder adds no characters. -/
theorem length_of_readPlaceholder {cs name rest : List Char}
    (h : readPlaceholder cs = some (name, rest)) : rest.length ≤ cs.length := by
  unfold readPlaceholder at h
  split at h
  · next r =>
    split at h
    · next name' rest' hname =>
      obtain ⟨-, rfl⟩ := Prod.mk.inj (Option.some.inj h)
      have hlength := length_of_readName hname
      rw [List.length_cons] at hlength ⊢
      omega
    · cases h
  · exact length_of_readName h

/-- Fills a template with the values of names, in one pass. -/
def filled (value : List Char → Option (List Char)) :
    List Char → Except TemplateFault (List Char)
  | [] => .ok []
  | '$' :: '$' :: r => (filled value r).map ('$' :: ·)
  | '$' :: r =>
    match _h : readPlaceholder r with
    | none => .error .invalid
    | some (name, rest) =>
      match value name with
      | none => .error (.unknown name)
      | some v => (filled value rest).map (v ++ ·)
  | c :: r => (filled value r).map (c :: ·)
termination_by cs => cs.length
decreasing_by
  · simp only [List.length_cons]
    omega
  · have hlength := length_of_readPlaceholder _h
    simp only [List.length_cons]
    omega
  · simp

/-- Fixed text as a template writes it: its dollar signs are doubled. -/
def fixed (cs : List Char) : List Char := cs.flatMap fun c => if c = '$' then ['$', '$'] else [c]

/-- A name in braces, as a template writes it. -/
def placeholder (name : List Char) : List Char := '$' :: '\x7b' :: (name ++ ['\x7d'])

/-- The characters make a name. -/
def IsName (name : List Char) : Prop :=
  name.head?.any isNameStart = true ∧ name.all isNameChar = true

section Substitution

variable {value : List Char → Option (List Char)}

/-- A plain character of a template stays. -/
theorem filled_cons {c : Char} (h : c ≠ '$') (r : List Char) :
    filled value (c :: r) = (filled value r).map (c :: ·) := by
  rw [filled]
  · exact fun _ heq => absurd heq h
  · exact h

/-- A text is put before a filled one character by character. -/
theorem map_cons_map_append (x : Except TemplateFault (List Char)) (c : Char) (cs : List Char) :
    (x.map (cs ++ ·)).map (c :: ·) = x.map ((c :: cs) ++ ·) := by
  cases x <;> rfl

/-- Fixed text stays as it is. -/
theorem filled_fixed_append (cs rest : List Char) :
    filled value (fixed cs ++ rest) = (filled value rest).map (cs ++ ·) := by
  induction cs with
  | nil =>
    cases h : filled value rest <;> simp [fixed, h, Except.map]
  | cons c cs ih =>
    have hsplit : fixed (c :: cs) ++ rest =
        (if c = '$' then ['$', '$'] else [c]) ++ (fixed cs ++ rest) := by
      rw [fixed, List.flatMap_cons, List.append_assoc]
      rfl
    rw [hsplit, ← map_cons_map_append, ← ih]
    -- two dollar signs are read as the one that was doubled, any other character as itself
    split
    · next hc =>
      subst hc
      rw [List.cons_append, List.singleton_append, filled]
    · next hc => rw [List.singleton_append, filled_cons hc]

/-- A name is read up to where it ends. -/
theorem readName_append {name rest : List Char} (h : IsName name)
    (hrest : ∀ c ∈ rest.head?, isNameChar c = false) :
    readName (name ++ rest) = some (name, rest) := by
  -- the name is the whole run of its characters, for what stands behind it goes on with none
  have htake : (name ++ rest).takeWhile isNameChar = name := by
    rw [List.takeWhile_append_of_pos (List.all_eq_true.1 h.2)]
    cases rest with
    | nil => rw [List.takeWhile_nil, List.append_nil]
    | cons c rest =>
      rw [List.takeWhile_cons_of_neg (by rw [hrest c rfl]; exact Bool.false_ne_true), List.append_nil]
  unfold readName
  dsimp only
  rw [htake, if_pos h.1, List.drop_left]

/-- A placeholder becomes the value of its name, and the value is not read as template again. -/
theorem filled_placeholder_append {name v : List Char} (hname : IsName name)
    (hvalue : value name = some v) (rest : List Char) :
    filled value (placeholder name ++ rest) = (filled value rest).map (v ++ ·) := by
  have hread : readPlaceholder ('\x7b' :: (name ++ '\x7d' :: rest)) = some (name, rest) := by
    have hclose : ∀ c ∈ ('\x7d' :: rest).head?, isNameChar c = false := by
      intro c hc
      obtain rfl := Option.some.inj hc
      decide
    rw [readPlaceholder, readName_append hname hclose]
    rfl
  have hshape : placeholder name ++ rest = '$' :: '\x7b' :: (name ++ '\x7d' :: rest) := by
    simp [placeholder]
  rw [hshape, filled]
  · split
    · next hnone => cases hread.symm.trans hnone
    · next name' rest' hsome =>
      obtain ⟨rfl, rfl⟩ := Prod.mk.inj (Option.some.inj (hread.symm.trans hsome))
      rw [hvalue]
  · exact fun r heq => absurd (List.cons.inj heq).1 (by decide)

end Substitution

end RouteAtlas.Text.Template
