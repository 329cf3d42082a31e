import RouteAtlas.Document.Value
import RouteAtlas.Document.Yaml.Node
import RouteAtlas.Number.NumberText
import RouteAtlas.Text.Base64

/-!
# Reading YAML

`Yaml.read` gives the value of a YAML text. Tags decide what a node becomes; a mapping with the tag of a
scalar stands for its default value, but not as a moment. Mappings take over the entries of the mappings
they merge, and cannot have collections as keys. A fault nearer to the root is reported before one further
in. The keys of the document itself name its fields, so they must have texts.
-/

namespace RouteAtlas.Document.Yaml

open RouteAtlas.Number RouteAtlas.Text

/-! ## Scalars -/

/-- The text of a number without underscores, cut into its sign and the rest. -/
def numberParts (s : String) : Scanned (Bool × String) :=
  match s.toList.filter (· != '_') with
  | [] => .error .emptyNumber
  | '-' :: r => .ok (true, String.ofList r)
  | '+' :: r => .ok (false, String.ofList r)
  | r => .ok (false, String.ofList r)

/-- A number that must be spelt. -/
def spelt {α : Type} : Option α → Scanned α
  | some a => .ok a
  | none => .error .noValue

/-- The value of digits in base sixty. -/
def sixtyFold {α : Type} [Add α] [Mul α] [OfNat α 0] [OfNat α 60] (parts : List α) : α :=
  parts.foldl (fun n d => n * 60 + d) 0

/-- An integer in one of the bases of YAML. -/
def yamlInt (s : String) : Scanned Int := do
  let (negative, s) ← numberParts s
  let n ←
    if s = "0" then pure 0
    else if beginsWith s "0b" then spelt (intOfText? 2 (String.ofList (s.toList.drop 2)))
    else if beginsWith s "0x" then spelt (intOfText? 16 (String.ofList (s.toList.drop 2)))
    else if s.isEmpty then .error .emptyNumber
    else if beginsWith s "0" then spelt (intOfText? 8 s)
    else if s.toList.contains ':' then do
      let parts ← (splitAt ':' s).mapM fun part => spelt (intOfText? 10 part)
      pure (sixtyFold parts)
    else spelt (intOfText? 10 s)
  return if negative then -n else n

/-- The sum of parts in base sixty, from the last on. -/
def sixtySum (parts : List Float) : Float :=
  (parts.reverse.foldl (fun (sum, base) d => (sum + d * base, base * 60.0)) (0.0, 1.0)).1

/-- A floating-point number. -/
def yamlFloat (s : String) : Scanned Float := do
  let (negative, s) ← numberParts (s.map Char.toLower)
  let x ←
    if s = ".inf" then pure infinity
    else if s = ".nan" then pure (0.0 / 0.0)
    else if s.toList.contains ':' then do
      let parts ← (splitAt ':' s).mapM fun part => spelt (floatOfText? part)
      pure (sixtySum parts)
    else spelt (floatOfText? s)
  return if negative then -x else x

/-- A truth value. -/
def yamlBool (s : String) : Scanned Bool :=
  let s := s.map Char.toLower
  if ["yes", "true", "on"].contains s then .ok true
  else if ["no", "false", "off"].contains s then .ok false
  else .error .unknownBool

/-- The runs of digits in a text, with whatever stands before each. -/
def digitRuns (fuel : Nat) (cs : List Char) : List (List Char × List Char) :=
  match fuel with
  | 0 => []
  | fuel + 1 =>
    let mark := cs.takeWhile (!isAsciiDigit ·)
    let r := cs.drop mark.length
    let ds := r.takeWhile isAsciiDigit
    if ds.isEmpty then (if mark.isEmpty then [] else [(mark, [])])
    else (mark, ds) :: digitRuns fuel (r.drop ds.length)

/-- The first six digits of a fraction of a second. -/
def microseconds (ds : List Char) : Nat :=
  ofDigits 10 ((ds ++ ['0', '0', '0', '0', '0', '0']).take 6)

/-- The offset that the parts after the seconds give: nothing, a mark for universal time, or a sign with
hours and minutes. -/
def momentOffset : List (List Char × List Char) → Option Int
  | [] => none
  | (mark, ds) :: more =>
    match mark.filter (fun c => c == '+' || c == '-' || c == 'Z') with
    | ['Z'] => some 0
    | [sign] =>
      let minutes := (more.head?.map fun (_, m) => ofDigits 10 m).getD 0
      let seconds : Int := ofDigits 10 ds * 3600 + minutes * 60
      some (if sign == '-' then -seconds else seconds)
    | _ => none

/-- A moment. A single line end may stand behind it. -/
def yamlMoment (s : String) : Scanned Moment :=
  let cs := if s.toList.getLast? = some '\n' then s.toList.dropLast else s.toList
  if !ScalarKind.markedMomentPattern.accepts cs then .error .noMoment
  else
    let number (part : List Char × List Char) : Nat := ofDigits 10 part.2
    match digitRuns (cs.length + 1) cs with
    | [y, m, d] =>
      let day : Day := ⟨number y, number m, number d⟩
      if day.isValid then .ok (.date day) else .error .noValue
    | y :: m :: d :: h :: min :: sec :: rest =>
      let day : Day := ⟨number y, number m, number d⟩
      let (fraction, rest) := match rest with
        | ('.' :: [], ds) :: rest => (ds, rest)
        | ('.' :: gap, ds) :: rest => ([], (gap, ds) :: rest)
        | rest => ([], rest)
      let clock : Clock :=
        ⟨number h, number min, number sec, microseconds fraction, momentOffset rest⟩
      if day.isValid && clock.isValid then .ok (.dateTime day clock) else .error .noValue
    | _ => .error .noMoment

/-- The value of a scalar with a tag. No number and no moment holds a surrogate, nor what stands for
it. -/
def scalarOfTag (tag : String) (codes : List Nat) : Scanned Value :=
  let text := readableText codes
  if tag = standardTag "str" then .ok (.ofCodes codes)
  else if tag = standardTag "null" then .ok .null
  else if tag = standardTag "bool" then .bool <$> yamlBool text
  else if tag = standardTag "int" then .int <$> yamlInt text
  else if tag = standardTag "float" then .float <$> yamlFloat text
  else if tag = standardTag "timestamp" then .moment <$> yamlMoment text
  else if tag = standardTag "binary" then
    match Base64.decode text with
    | some bytes => .ok (.bytes bytes)
    | none => .error .malformed
  else .error .malformed

/-! ## Default values -/

/-- The tags of sequences. -/
def sequenceTags : List String := ["seq", "omap", "pairs"].map standardTag

/-- The tags of mappings. -/
def mappingTags : List String := ["map", "set"].map standardTag

/-- The node is the key of a default value. -/
def isDefaultKey : Node → Bool
  | .scalar tag _ => tag == standardTag "value"
  | _ => false

mutual

/-- The text of a node read as a scalar: its own, or that of its default value. -/
def Node.scalarText? : Node → Option (List Nat)
  | .scalar _ codes => some codes
  | .sequence _ _ => none
  | .mapping _ entries => defaultText? entries
  | .cycle => none
  | .broken _ => none

/-- The text of the first default value among entries. -/
def defaultText? : List (Node × Node) → Option (List Nat)
  | [] => none
  | (k, v) :: r => if isDefaultKey k then v.scalarText? else defaultText? r

end

/-- The scalar that a mapping is whose tag makes it one: its default value, but none is a moment. -/
def defaultScalar? (tag : String) (entries : List (Node × Node)) : Option Node :=
  if mappingTags.contains tag then none
  else (defaultText? entries).map fun codes =>
    if tag = standardTag "timestamp" then .broken .momentMapping else .scalar tag codes

/-! ## Merged mappings -/

/-- The entries that a mapping takes over from the value of a merge key, which is a mapping or a list
of them, the first before the others; nothing for any other value. -/
def mergedEntries? : Node → Option (List (Node × Node))
  | .mapping _ entries => some entries
  | .sequence _ items => do
    let parts ← items.mapM fun
      | .mapping _ entries => some entries
      | .cycle => some []
      | _ => none
    return parts.reverse.flatten
  | .cycle => some []
  | .scalar _ _ => none
  | .broken _ => none

/-- The node is the key of merged mappings. -/
def isMergeKey : Node → Bool
  | .scalar tag _ => tag == standardTag "merge"
  | _ => false

/-- The key of a default value is a text among keys. -/
def plainKey : Node → Node
  | .scalar tag codes => .scalar (if tag = standardTag "value" then standardTag "str" else tag) codes
  | n => n

/-- A mapping with the entries it merges before its own. -/
def mergeInto (tag : String) (entries : List (Node × Node)) : Node :=
  let (merges, own) := entries.partition fun (k, _) => isMergeKey k
  match merges.mapM fun (_, v) => mergedEntries? v with
  | some parts => .mapping tag (parts.flatten ++ own.map fun (k, v) => (plainKey k, v))
  | none => .broken .malformed

mutual

/-- The node with all merges carried out. -/
def Node.merged : Node → Node
  | .scalar tag codes => .scalar tag codes
  | .sequence tag items => .sequence tag (mergedAll items)
  | .mapping tag entries =>
    match defaultScalar? tag entries with
    | some n => n
    | none => mergeInto tag (mergedPairs entries)
  | .cycle => .cycle
  | .broken fault => .broken fault

/-- The nodes with all merges carried out. -/
def mergedAll : List Node → List Node
  | [] => []
  | n :: r => n.merged :: mergedAll r

/-- The entries with all merges carried out. -/
def mergedPairs : List (Node × Node) → List (Node × Node)
  | [] => []
  | (k, v) :: r => (k.merged, v.merged) :: mergedPairs r

end

/-! ## Faults -/

/-- The faults that a node has by itself. -/
def ownFaults : Node → List YamlFault
  | .scalar tag codes =>
    match scalarOfTag tag codes with
    | .ok _ => []
    | .error f => [f]
  | .sequence tag _ => if sequenceTags.contains tag then [] else [.malformed]
  | .mapping tag _ => if mappingTags.contains tag then [] else [.malformed]
  | .cycle => []
  | .broken fault => [fault]

/-- A collection cannot be a key. -/
def keyFaults : Node → List YamlFault
  | .scalar tag codes => ownFaults (.scalar tag codes)
  | .broken fault => [fault]
  | _ => [.malformed]

/-- A node that is a pair. -/
def isPair : Node → Bool
  | .mapping _ [_] => true
  | _ => false

/-- The faults of two lists of levels side by side. -/
def mergeFaults : List (List YamlFault) → List (List YamlFault) → List (List YamlFault)
  | [], ys => ys
  | xs, [] => xs
  | x :: xs, y :: ys => (x ++ y) :: mergeFaults xs ys

mutual

/-- The faults inside a node, level by level. -/
def Node.faultLevels : Node → List (List YamlFault)
  | .scalar _ _ => []
  | .sequence tag items =>
    (if tag = standardTag "seq" then items.flatMap ownFaults
      else items.flatMap fun n => if isPair n then [] else [.malformed]) :: faultLevelsAll items
  | .mapping _ entries =>
    (entries.flatMap fun (k, v) => keyFaults k ++ ownFaults v) :: faultLevelsValues entries
  | .cycle => []
  | .broken _ => []

/-- The faults inside nodes side by side. -/
def faultLevelsAll : List Node → List (List YamlFault)
  | [] => []
  | n :: r => mergeFaults n.faultLevels (faultLevelsAll r)

/-- The faults inside the values of entries side by side. -/
def faultLevelsValues : List (Node × Node) → List (List YamlFault)
  | [] => []
  | (_, v) :: r => mergeFaults v.faultLevels (faultLevelsValues r)

end

/-- The first fault of a document. -/
def Node.firstFault? (n : Node) : Option YamlFault := (ownFaults n ++ n.faultLevels.flatten).head?

/-! ## Values -/

/-- The text of a key; keys of other kinds have none. -/
def Node.keyText? : Node → Option String
  | .scalar tag codes => if tag = standardTag "str" then some (readableText codes) else none
  | _ => none

mutual

/-- The value of a node without faults. Entries of a mapping whose keys are no texts are left out. -/
def Node.value : Node → Value
  | .scalar tag codes => ((scalarOfTag tag codes).toOption).getD .null
  | .sequence _ items => .list (valuesOf items)
  | .mapping tag entries =>
    if tag = standardTag "set" then .foreign "set" else .map (ofFields (fieldsOf entries))
  | .cycle => .foreign "cycle"
  | .broken _ => .null

/-- The values of nodes. -/
def valuesOf : List Node → List Value
  | [] => []
  | n :: r => n.value :: valuesOf r

/-- The fields of a mapping. -/
def fieldsOf : List (Node × Node) → List (String × Value)
  | [] => []
  | (k, v) :: r =>
    match k.keyText? with
    | some name => (name, v.value) :: fieldsOf r
    | none => fieldsOf r

end

/-- The node is an integer that is too long to be written. -/
def isLongKey : Node → Bool
  | .scalar tag codes =>
    match scalarOfTag tag codes with
    | .ok (.int n) => isLongInteger n
    | _ => false
  | _ => false

/-- Some key of the mapping is too long to be the name of a field. -/
def Node.hasLongKey : Node → Bool
  | .mapping tag entries => tag != standardTag "set" && entries.any fun (k, _) => isLongKey k
  | _ => false

/-- The value of a YAML text; null for a text without a document. -/
def read (s : String) : Scanned Value := do
  match ← Node.ofTokens (← Token.scan s) with
  | none => return .null
  | some n =>
    let n := n.merged
    match n.firstFault? with
    | some f => .error f
    | none => if n.hasLongKey then .error .longKey else return n.value

end RouteAtlas.Document.Yaml
