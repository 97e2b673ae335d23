/-
Lobby/Rendezvous/Token.lean

Tokens: sixteen random bytes in lower-case hexadecimal, and the part of a token that may be shown
in logs.
-/
import Lobby.Rendezvous
import Lobby.Text.Hex

namespace Lobby

/-- One draw of sixteen random bytes. -/
abbrev Draw := Vector UInt8 16

/-- The token of a draw: 32 characters. -/
def Draw.token (d : Draw) : String := Text.Hex.ofBytes d.toList

/-- The first drawn token that nobody waits on. -/
def Rendezvous.freshToken? {γ π : Type} (r : Rendezvous γ π) (draws : List Draw) : Option String :=
  (draws.map Draw.token).find? fun token => !r.contains token

/-- The first `bytes` bytes of a row of characters, if a character ends there. -/
def cutAfter? : Nat → List Char → Option (List Char)
  | 0, _ => some []
  | _ + 1, [] => none
  | bytes + 1, c :: cs =>
    if c.utf8Size ≤ bytes + 1 then (cutAfter? (bytes + 1 - c.utf8Size) cs).map (c :: ·) else none

/-- What may be shown of a token: its first eight bytes, or all of it when no character ends
there. -/
def redact (token : String) : String :=
  match cutAfter? 8 token.toList with
  | some cs => String.ofList cs
  | none => token

end Lobby
