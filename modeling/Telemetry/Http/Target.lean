import Telemetry.Text.Utf8

/-!
Targets of requests.

A target is a path with an optional query, an asterisk, an authority alone, or an absolute
address with a scheme. Of all that, requests use the path: it is `/` where an absolute address
has none, and empty where the target is an authority. A fragment is dropped.
-/
namespace Telemetry.Http

/-- What a request is about. -/
structure Target where
  path : String
  deriving DecidableEq, Repr, Inhabited

namespace Target

def charOf (b : UInt8) : Char := Char.ofNat b.toNat

def isAuthorityByte (b : UInt8) : Bool :=
  b < 0x80 && ((charOf b).isAlphanum || "!$&'()*+,-.:;=@[]_~".toList.contains (charOf b))

def isSchemeByte (b : UInt8) : Bool :=
  b < 0x80 && ((charOf b).isAlphanum || "+-.~".toList.contains (charOf b))

def isPathByte (b : UInt8) : Bool :=
  0x80 ≤ b || (0x21 ≤ b && b != 0x7F && !("#<>?`".toList.contains (charOf b)))

def isQueryByte (b : UInt8) : Bool :=
  0x80 ≤ b || (0x21 ≤ b && b != 0x7F && !("\"#<>".toList.contains (charOf b)))

/-- Whether the byte ends an authority. -/
def endsAuthority (b : UInt8) : Bool :=
  b == 0x2F || b == 0x3F || b == 0x23

/-- Reads a path and query, dropping a fragment: the path, which is `/` if it is empty. -/
def pathOf (bytes : Bytes) : Option Target :=
  let path := bytes.takeWhile fun b => b != 0x3F && b != 0x23
  let rest := bytes.drop path.length
  let query := if rest.head? == some 0x3F then (rest.drop 1).takeWhile (· != 0x23) else []
  if path.all isPathByte && query.all isQueryByte then
    match Text.Utf8.toString? path, Text.Utf8.toString? query with
    | some s, some _ => some ⟨if path.isEmpty then "/" else s⟩
    | _, _ => none
  else none

/-- What has been seen of an authority: the colons and a percent sign since the last `@` or `]`,
brackets, and whether the last byte was `@`. -/
structure AuthorityScan where
  colons : Nat := 0
  percent : Bool := false
  openBracket : Bool := false
  closeBracket : Bool := false
  lastAt : Bool := false

def AuthorityScan.step (s : AuthorityScan) (b : UInt8) : Option AuthorityScan :=
  let s := { s with lastAt := false }
  if b = 0x3A then if 8 ≤ s.colons then none else some { s with colons := s.colons + 1 }
  else if b = 0x5B then
    if s.percent || s.openBracket then none else some { s with openBracket := true }
  else if b = 0x5D then
    if !s.openBracket || s.closeBracket then none
    else some { s with closeBracket := true, colons := 0, percent := false }
  else if b = 0x40 then some { s with colons := 0, percent := false, lastAt := true }
  else if b = 0x25 then some { s with percent := true }
  else if isAuthorityByte b then some s
  else none

/-- Whether the bytes are an authority: a host with an optional user and port. -/
def isAuthority (bytes : Bytes) : Bool :=
  match bytes.foldlM AuthorityScan.step {} with
  | some s => s.openBracket == s.closeBracket && s.colons ≤ 1 && !s.lastAt && !s.percent
  | none => false

/-- The size of the scheme at the start of a target, with nothing of `://`. -/
def schemeLength? (bytes : Bytes) : Option Nat :=
  let scheme := bytes.takeWhile isSchemeByte
  if (bytes.drop scheme.length).take 3 = [0x3A, 0x2F, 0x2F] then some scheme.length else none

/-- Reads a target that has a scheme of `n` bytes. -/
def absolute (n : Nat) (bytes : Bytes) : Option Target :=
  let rest := bytes.drop (n + 3)
  let authority := rest.takeWhile fun b => !endsAuthority b
  if n ≤ 64 && !authority.isEmpty && isAuthority authority then
    pathOf (rest.drop authority.length)
  else none

def parse? (bytes : Bytes) : Option Target :=
  if 65534 < bytes.length then none
  else
    match bytes with
    | [] => none
    | [0x2A] => some ⟨"*"⟩
    | b :: _ =>
      if b = 0x2F then pathOf bytes
      else
        match schemeLength? bytes with
        | some n => absolute n bytes
        | none => if isAuthority bytes then some ⟨""⟩ else none

end Target

end Telemetry.Http
