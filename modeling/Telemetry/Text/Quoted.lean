import Telemetry.Text.Hidden

/-!
Texts as quoted for a log.

A quote and a backslash are written with a backslash, NUL, tab, carriage return and line feed
by their letters, and every other hidden character by its number. The unquoted form leaves out
the quotes around and inside the text, so a written quote shows as its backslash alone.
-/
namespace Telemetry.Text.Quoted

def hex (n : Nat) : List Char :=
  Nat.toDigits 16 n

def encodeChar (c : Char) : List Char :=
  if c = '\x00' then ['\\', '0']
  else if c = '\t' then ['\\', 't']
  else if c = '\r' then ['\\', 'r']
  else if c = '\n' then ['\\', 'n']
  else if c = '\"' then ['\\', '\"']
  else if c = '\\' then ['\\', '\\']
  else if isHidden c then ['\\', 'u', '\x7b'] ++ hex c.toNat ++ ['\x7d']
  else [c]

/-- The written form of a text, without the quotes around it. -/
def encode (s : List Char) : List Char :=
  s.flatMap encodeChar

def quote (s : String) : String :=
  String.ofList (['\"'] ++ encode s.toList ++ ['\"'])

/-- The written form of a text with every quote left out. -/
def unquote (s : List Char) : List Char :=
  (encode s).filter (· ≠ '\"')

theorem encode_append (s t : List Char) : encode (s ++ t) = encode s ++ encode t := by
  simp [encode]

theorem unquote_append (s t : List Char) : unquote (s ++ t) = unquote s ++ unquote t := by
  simp [unquote, encode_append]

end Telemetry.Text.Quoted
