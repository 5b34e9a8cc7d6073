/-!
# Paths

Slash-separated file paths: cleaning (`a//b/../c` is `a/c`), joining, the extension of the last
element, and the expansion of `$NAME` and `${NAME}` in a path from an environment.
-/

set_option autoImplicit false

namespace MiniLox.Path

/-- Removes `.` elements, and `..` elements with the element before them; a rooted path drops
`..` at its root. The empty path is `.`. -/
def clean (p : String) : String :=
  let rooted := p.startsWith "/"
  let parts := (p.splitOn "/").filter fun e => e ≠ "" ∧ e ≠ "."
  let step (acc : List String) (e : String) : List String :=
    if e = ".." then
      match acc with
      | last :: rest => if last = ".." then e :: acc else rest
      | [] => if rooted then [] else [e]
    else e :: acc
  let kept := (parts.foldl step []).reverse
  let body := "/".intercalate kept
  if rooted then "/" ++ body else if body.isEmpty then "." else body

def join (elems : List String) : String :=
  match elems.dropWhile (·.isEmpty) with
  | [] => ""
  | es => clean ("/".intercalate es)

def extension (p : String) : String :=
  let last := (p.toList.reverse.takeWhile (· ≠ '/'))
  match last.findIdx? (· = '.') with
  | some i => String.ofList (last.take (i + 1)).reverse
  | none => ""

def isNameChar (c : Char) : Bool := c = '_' || c.isAlphanum

def isSpecialName (c : Char) : Bool := "*#$@!?-".toList.contains c || c.isDigit

def shellName (s : List Char) : String × Nat :=
  match s with
  | '{' :: c :: '}' :: _ =>
    if isSpecialName c then (String.singleton c, 3)
    else braced
  | '{' :: _ => braced
  | c :: _ =>
    if isSpecialName c then (String.singleton c, 1)
    else let n := s.takeWhile isNameChar; (String.ofList n, n.length)
  | [] => ("", 0)
where
  braced : String × Nat :=
    match (s.drop 1).findIdx? (· = '}') with
    | some 0 => ("", 2)
    | some i => (String.ofList ((s.drop 1).take i), i + 2)
    | none => ("", 1)

/-- Replaces `$NAME` and `${NAME}` by the variable's value (empty when unset), looking the
variables up with `env`. A `$` before no name stays. -/
def expand {m : Type → Type} [Monad m] (env : String → m (Option String)) (s : String) : m String := do
  let rec go : Nat → List Char → m (List Char)
    | 0, cs => pure cs
    | fuel + 1, '$' :: c :: r => do
      let (name, width) := shellName (c :: r)
      let after := (c :: r).drop width
      if name.isEmpty then
        if width > 0 then go fuel after else do pure ('$' :: (← go fuel (c :: r)))
      else do pure (((← env name).getD "").toList ++ (← go fuel after))
    | fuel + 1, c :: r => do pure (c :: (← go fuel r))
    | _ + 1, [] => pure []
  pure (String.ofList (← go (s.length + 1) s.toList))

end MiniLox.Path
