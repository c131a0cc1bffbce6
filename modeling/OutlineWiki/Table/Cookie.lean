import OutlineWiki.Text.DecimalDigit

/-!
# Width cookies

A cookie is a cell that sets the layout of its column: `<10>` its width, `<l>` its alignment, `<r8>`
both. Digits of every script count.
-/

namespace OutlineWiki

/-- What a cookie says about its column. Only the width is used; the alignment is told apart so that
a cookie without a width is still known as one. -/
structure Cookie where
  alignment : Option Char
  width : Option Nat
deriving DecidableEq, Inhabited, Repr

namespace Cookie

/-- The letters for left, right and centre. -/
def alignments : List Char := ['l', 'r', 'c']

/-- The optional alignment letter at the start of a cookie's inside. -/
def splitAlignment : List Char → Option Char × List Char
  | [] => (none, [])
  | letter :: rest => if alignments.contains letter then (some letter, rest) else (none, letter :: rest)

/-- The inside of a text between angle brackets. -/
def inside? : List Char → Option (List Char)
  | '<' :: rest =>
    match rest.reverse with
    | '>' :: reversed => some reversed.reverse
    | _ => none
  | _ => none

/-- The cookie that a text is. -/
def ofText? (text : String) : Option Cookie := do
  let inner ← inside? text.toList
  let (alignment, digits) := splitAlignment inner
  match digits with
  | [] => return { alignment, width := none }
  | _ :: _ =>
    let width ← Text.decimalValue? digits
    return { alignment, width := some width }

end Cookie

end OutlineWiki
