import Telemetry.Text.CaseTable

/-!
Upper and lower case.

Single characters follow the full mappings, so one character may become several. A whole text
is lowered character by character, except that a capital sigma at the end of a word becomes
the final small sigma.
-/
namespace Telemetry.Text

/-- The counterpart of a character: the special mapping first, then the runs, else itself. -/
def mapCase (specials : List (Nat × List Nat)) (runs : CaseRuns) (c : Char) : List Char :=
  match specials.lookup c.toNat with
  | some codes => codes.map Char.ofNat
  | none =>
    match runs.find? c.toNat with
    | some code => [Char.ofNat code]
    | none => [c]

def lowerChar (c : Char) : List Char :=
  if c.toNat < 128 then [c.toLower] else mapCase lowerSpecials lowerRuns c

def upperChar (c : Char) : List Char :=
  if c.toNat < 128 then [c.toUpper] else mapCase upperSpecials upperRuns c

/-- Whether the nearest character that is not passed over has a case. -/
def casedAhead (s : List Char) : Bool :=
  match s.dropWhile fun c => caseIgnorableRanges.has c.toNat with
  | [] => false
  | c :: _ => casedRanges.has c.toNat

/-- Lowers a text; `before` holds the characters already passed, the nearest first. -/
def lowerFrom (before : List Char) : List Char → List Char
  | [] => []
  | c :: rest =>
    let here :=
      if c = 'Σ' then if casedAhead before && !casedAhead rest then ['ς'] else ['σ']
      else lowerChar c
    here ++ lowerFrom (c :: before) rest

def lowered (s : String) : String :=
  String.ofList (lowerFrom [] s.toList)

end Telemetry.Text
