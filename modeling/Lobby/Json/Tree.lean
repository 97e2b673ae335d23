/-
Lobby/Json/Tree.lean

JSON values as trees whose leaves are still literals.

A tree is put together from tokens by a **reader**: a stack of containers that are still open, and
what the reader expects next.  Every token moves the reader one step, so reading is a fold, and a
text may nest as deep as it likes.  `tokens` goes the other way; reading the tokens of a tree gives
the tree back (`ofTokens?_tokens`), whatever its literals denote.
-/
import Lobby.Json.Token

namespace Lobby.Json

/-- A JSON value whose numbers and strings are kept as they were written. -/
inductive Tree where
  | null
  | bool (b : Bool)
  | number (n : Number)
  | string (l : Literal)
  | array (items : List Tree)
  | object (members : List (Literal × Tree))

/-- A container that is still open: what it holds so far, latest first, and for an object the
name of the member whose value comes next. -/
inductive Frame where
  | array (items : List Tree)
  | object (members : List (Literal × Tree)) (key : Literal)

/-- What a reader expects next, inside the containers on its stack. -/
inductive Reader where
  /-- A value. -/
  | value (stack : List Frame)
  /-- The first item of a new array, or its end. -/
  | firstItem (stack : List Frame)
  /-- A comma or the end of an array. -/
  | afterItem (items : List Tree) (stack : List Frame)
  /-- The first name of a new object, or its end. -/
  | firstName (stack : List Frame)
  /-- A name, after a comma. -/
  | name (members : List (Literal × Tree)) (stack : List Frame)
  /-- The colon after a name. -/
  | colon (members : List (Literal × Tree)) (key : Literal) (stack : List Frame)
  /-- A comma or the end of an object. -/
  | afterMember (members : List (Literal × Tree)) (stack : List Frame)
  /-- Nothing: the value is complete. -/
  | done (t : Tree)

namespace Reader

/-- A value is complete: it goes into the innermost open container. -/
def put (t : Tree) : List Frame → Reader
  | [] => .done t
  | .array items :: stack => .afterItem (t :: items) stack
  | .object members key :: stack => .afterMember ((key, t) :: members) stack

/-- A token where a value is expected. -/
def start (stack : List Frame) : Token → Option Reader
  | .null => some (put .null stack)
  | .bool b => some (put (.bool b) stack)
  | .number n => some (put (.number n) stack)
  | .string l => some (put (.string l) stack)
  | .openArray => some (.firstItem stack)
  | .openObject => some (.firstName stack)
  | _ => none

/-- One token. -/
def step : Reader → Token → Option Reader
  | .value stack, t => start stack t
  | .firstItem stack, .closeArray => some (put (.array []) stack)
  | .firstItem stack, t => start (.array [] :: stack) t
  | .afterItem items stack, .comma => some (.value (.array items :: stack))
  | .afterItem items stack, .closeArray => some (put (.array items.reverse) stack)
  | .firstName stack, .closeObject => some (put (.object []) stack)
  | .firstName stack, .string l => some (.colon [] l stack)
  | .name members stack, .string l => some (.colon members l stack)
  | .colon members key stack, .colon => some (.value (.object members key :: stack))
  | .afterMember members stack, .comma => some (.name members stack)
  | .afterMember members stack, .closeObject => some (put (.object members.reverse) stack)
  | _, _ => none

/-- A row of tokens, one step each. -/
def run (r : Reader) (ts : List Token) : Option Reader := ts.foldlM step r

theorem run_cons (r : Reader) (t : Token) (ts : List Token) :
    r.run (t :: ts) = (r.step t).bind (·.run ts) := rfl

end Reader

namespace Tree

/-- The value that a row of tokens spells, if it spells one and nothing more. -/
def ofTokens? (ts : List Token) : Option Tree :=
  match (Reader.value []).run ts with
  | some (.done t) => some t
  | _ => none

/-! ### Writing -/

mutual

/-- The tokens of a value. -/
def tokens : Tree → List Token
  | .null => [.null]
  | .bool b => [.bool b]
  | .number n => [.number n]
  | .string l => [.string l]
  | .array items => .openArray :: itemTokens items
  | .object members => .openObject :: memberTokens members

/-- The items of an array, up to and with its closing bracket. -/
def itemTokens : List Tree → List Token
  | [] => [.closeArray]
  | t :: ts => t.tokens ++ laterItemTokens ts

/-- The items after the first, each behind a comma. -/
def laterItemTokens : List Tree → List Token
  | [] => [.closeArray]
  | t :: ts => .comma :: (t.tokens ++ laterItemTokens ts)

/-- The members of an object, up to and with its closing brace. -/
def memberTokens : List (Literal × Tree) → List Token
  | [] => [.closeObject]
  | (key, t) :: ms => .string key :: .colon :: (t.tokens ++ laterMemberTokens ms)

/-- The members after the first, each behind a comma. -/
def laterMemberTokens : List (Literal × Tree) → List Token
  | [] => [.closeObject]
  | (key, t) :: ms => .comma :: .string key :: .colon :: (t.tokens ++ laterMemberTokens ms)

end

/-- The text of a value, without blanks. -/
def render (t : Tree) : List UInt8 := t.tokens.flatMap Token.render

end Tree

/-! ### Reading undoes writing -/

/-- The first item of an array is read like any value: no value starts with a closing bracket. -/
theorem Reader.run_firstItem (t : Tree) (stack : List Frame) (rest : List Token) :
    (Reader.firstItem stack).run (t.tokens ++ rest)
      = (Reader.value (.array [] :: stack)).run (t.tokens ++ rest) := by
  cases t <;> rfl

mutual

theorem Reader.run_tokens : (t : Tree) → (stack : List Frame) → (rest : List Token) →
    (Reader.value stack).run (t.tokens ++ rest) = (Reader.put t stack).run rest
  | .null, _, _ => rfl
  | .bool _, _, _ => rfl
  | .number _, _, _ => rfl
  | .string _, _, _ => rfl
  | .array [], _, _ => rfl
  | .array (t :: ts), stack, rest => by
    show (Reader.firstItem stack).run ((t.tokens ++ Tree.laterItemTokens ts) ++ rest) = _
    rw [List.append_assoc, Reader.run_firstItem, Reader.run_tokens t]
    exact Reader.run_laterItemTokens ts [t] stack rest
  | .object [], _, _ => rfl
  | .object ((key, t) :: ms), stack, rest => by
    show (Reader.value (.object [] key :: stack)).run
      ((t.tokens ++ Tree.laterMemberTokens ms) ++ rest) = _
    rw [List.append_assoc, Reader.run_tokens t]
    exact Reader.run_laterMemberTokens ms [(key, t)] stack rest

theorem Reader.run_laterItemTokens : (ts : List Tree) → (items : List Tree) →
    (stack : List Frame) → (rest : List Token) →
    (Reader.afterItem items stack).run (Tree.laterItemTokens ts ++ rest)
      = (Reader.put (.array (items.reverse ++ ts)) stack).run rest
  | [], items, stack, rest => by rw [List.append_nil]; rfl
  | t :: ts, items, stack, rest => by
    show (Reader.value (.array items :: stack)).run
      ((t.tokens ++ Tree.laterItemTokens ts) ++ rest) = _
    rw [List.append_assoc, Reader.run_tokens t]
    refine (Reader.run_laterItemTokens ts (t :: items) stack rest).trans ?_
    rw [List.reverse_cons, List.append_assoc, List.singleton_append]

theorem Reader.run_laterMemberTokens : (ms : List (Literal × Tree)) →
    (members : List (Literal × Tree)) → (stack : List Frame) → (rest : List Token) →
    (Reader.afterMember members stack).run (Tree.laterMemberTokens ms ++ rest)
      = (Reader.put (.object (members.reverse ++ ms)) stack).run rest
  | [], members, stack, rest => by rw [List.append_nil]; rfl
  | (key, t) :: ms, members, stack, rest => by
    show (Reader.value (.object members key :: stack)).run
      ((t.tokens ++ Tree.laterMemberTokens ms) ++ rest) = _
    rw [List.append_assoc, Reader.run_tokens t]
    refine (Reader.run_laterMemberTokens ms ((key, t) :: members) stack rest).trans ?_
    rw [List.reverse_cons, List.append_assoc, List.singleton_append]

end

/-- The tokens of a value spell that value. -/
theorem Tree.ofTokens?_tokens (t : Tree) : Tree.ofTokens? t.tokens = some t := by
  have h := Reader.run_tokens t [] []
  rw [List.append_nil] at h
  rw [Tree.ofTokens?, h]
  rfl

end Lobby.Json
