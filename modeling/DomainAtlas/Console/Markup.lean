import DomainAtlas.Console.Pictograph
import DomainAtlas.Console.Style
import DomainAtlas.Text.Literal

/-!
# Marked-up messages

A message is marked up with tags in square brackets: `[bold]` starts a styled passage, `[/bold]` ends
the innermost passage of that name and `[/]` the innermost one of any name. A tag starts with a small
letter or one of `#`, `/` and `@`; a backslash before it takes its meaning away. Short names of
pictographs between colons are replaced.

`Markup.plain` is the text that remains for a terminal without styles, or what keeps the message from
being shown: a tag that ends nothing, or a colour that cannot be read. The expressions that tags with an
`@` may carry are taken to be well formed.
-/
namespace DomainAtlas.Console.Markup

/-! ## Pictographs -/

/-- The name of a pictograph and the selector of how it is shown. -/
def variantOf (code : List Char) : List Char × List Char :=
  if "-emoji".toList.isSuffixOf code then (code.take (code.length - 6), ['\ufe0f'])
  else if "-text".toList.isSuffixOf code then (code.take (code.length - 5), ['\ufe0e'])
  else (code, [])

/-- What is written for a code between colons; what is not known stays as it is. -/
def drawn (code : List Char) : List Char :=
  let (name, selector) := variantOf code
  match pictograph? (Text.lower (String.ofList name)) with
  | some p => p.toList ++ selector
  | none => ':' :: (code ++ [':'])

/-- Whether a character can stand in a code. -/
def inCode (c : Char) : Bool := c != ':' && !Text.isBlank c

theorem length_lt_of_dropWhile {p : Char → Bool} {c : Char} {cs rest : List Char}
    (h : cs.dropWhile p = c :: rest) : rest.length < cs.length := by
  have short := (List.dropWhile_suffix p (l := cs)).length_le
  rw [h, List.length_cons] at short
  exact short

/-- Replaces the codes of pictographs. -/
def drawAll : List Char → List Char
  | [] => []
  | c :: cs =>
    if c = ':' then
      match _h : cs.dropWhile inCode with
      | ':' :: rest =>
        drawn (cs.takeWhile inCode) ++ drawAll rest
      | _ => ':' :: drawAll cs
    else c :: drawAll cs
termination_by cs => cs.length
decreasing_by
  · exact Nat.lt_succ_of_lt (length_lt_of_dropWhile _h)
  · exact Nat.lt_succ_self cs.length
  · exact Nat.lt_succ_self cs.length

/-! ## Tags -/

inductive Part where
  | text (cs : List Char)
  /-- A tag: where it stands, its name and what follows an equals sign in it. -/
  | tag (position : Nat) (name : List Char) (argument : Option (List Char))
  deriving Repr

/-- Whether a character can be the first one of a tag. -/
def opensTag (c : Char) : Bool :=
  ('a' ≤ c && c ≤ 'z') || c == '#' || c == '/' || c == '@'

/-- Whether a character can stand inside a tag. -/
def inTag (c : Char) : Bool := c != '[' && c != ']'

/-- A tag found at the front: the number of backslashes before it, what stands in it, and what
follows. -/
structure Found where
  slashes : Nat
  body : List Char
  rest : List Char

/-- The tag at the front of a text. -/
def tagAt? (cs : List Char) : Option Found :=
  match cs.dropWhile (· == '\\') with
  | '[' :: c :: after =>
    if opensTag c then
      match after.dropWhile inTag with
      | ']' :: rest =>
        some ⟨(cs.takeWhile (· == '\\')).length, c :: after.takeWhile inTag, rest⟩
      | _ => none
    else none
  | _ => none

/-- What follows a tag is shorter. -/
theorem tagAt?_rest_length {cs : List Char} {f : Found} (h : tagAt? cs = some f) :
    f.rest.length < cs.length := by
  unfold tagAt? at h
  have h₁ := (List.dropWhile_suffix (· == '\\') (l := cs)).length_le
  split at h
  · rename_i c after heq
    rw [heq] at h₁
    split at h
    · split at h
      · rename_i rest heq₂
        have h₂ := (List.dropWhile_suffix inTag (l := after)).length_le
        rw [heq₂] at h₂
        cases h
        simp at h₁ h₂
        simp
        omega
      · cases h
    · cases h
  · cases h

/-- The pieces of text, if there is something in them. -/
def piece (cs : List Char) : List Part := if cs.isEmpty then [] else [.text cs]

/-- A tag, its name and argument told apart. -/
def tagOf (position : Nat) (body : List Char) : Part :=
  match body.dropWhile (· != '=') with
  | '=' :: argument => .tag position (body.takeWhile (· != '=')) (some argument)
  | _ => .tag position body none

/-- The parts of a message. `position` is where `cs` starts; `pending` is the text before it, in
reverse, that has not become a part yet. -/
def partsFrom (position : Nat) (pending : List Char) (cs : List Char) : List Part :=
  match cs with
  | [] => piece pending.reverse
  | c :: more =>
    match h : tagAt? (c :: more) with
    | none => partsFrom (position + 1) (c :: pending) more
    | some f =>
      let halved := List.replicate (f.slashes / 2) '\\'
      let next := position + f.slashes + f.body.length + 2
      let found :=
        if f.slashes % 2 = 1 then .text ('[' :: (f.body ++ [']']))
        else tagOf (position + f.slashes) f.body
      piece pending.reverse ++ piece halved ++ found :: partsFrom next [] f.rest
termination_by cs.length
decreasing_by
  · exact Nat.lt_succ_self more.length
  · exact tagAt?_rest_length h

def parts (cs : List Char) : List Part := partsFrom 0 [] cs

/-! ## Plain text -/

/-- Why a message cannot be shown: a tag ends nothing, or a style cannot be read. -/
inductive Fault where
  | unmatched (tag : String) (position : Nat)
  | nothingOpen (position : Nat)
  | shade (fault : ShadeFault)
  deriving DecidableEq, Repr

def Fault.message : Fault → String
  | .unmatched tag position =>
    s!"closing tag '{tag}' at position {position} doesn't match any open tag"
  | .nothingOpen position => s!"closing tag '[/]' at position {position} has nothing to close"
  | .shade fault => fault.message

/-- Characters a terminal would act on: they are left out. -/
def isControl (c : Char) : Bool := [7, 8, 11, 12, 13].contains c.toNat

/-- What is shown of a piece of text. -/
def shown (cs : List Char) : List Char := (drawAll cs).filter fun c => !isControl c

/-- A backslash before a square bracket is left out. -/
def unescape : List Char → List Char
  | '\\' :: '[' :: cs => '[' :: unescape cs
  | c :: cs => c :: unescape cs
  | [] => []

/-- Takes the latest passage of a name off the open ones, latest first. -/
def close? (name : String) : List String → Option (List String)
  | [] => none
  | n :: ns => if n = name then some ns else (close? name ns).map (n :: ·)

def written (name : List Char) (argument : Option (List Char)) : String :=
  match argument with
  | none => String.ofList ('[' :: (name ++ [']']))
  | some a => String.ofList ('[' :: (name ++ '=' :: (a ++ [']'])))

/-- The name of a style in a message. -/
def nameOf (style : String) : Except Fault String := (styleName style).mapError .shade

/-- The plain text of parts, with some passages open. -/
def plainOf (opened : List String) : List Part → Except Fault (List Char)
  | [] => .ok []
  | .text cs :: rest => (plainOf opened rest).map (shown (unescape cs) ++ ·)
  | .tag position name argument :: rest =>
    match name with
    | '/' :: closing =>
      if Text.trimBy Text.isBlank closing = [] then
        match opened with
        | [] => .error (.nothingOpen position)
        | _ :: opened => plainOf opened rest
      else do
        match close? (← nameOf (Text.strip (String.ofList closing))) opened with
        | none => .error (.unmatched (written name argument) position)
        | some opened => plainOf opened rest
    | _ => do plainOf ((← nameOf (String.ofList name)) :: opened) rest

/-- The style of a passage: its name, with what follows the equals sign in its tag. -/
def styleOf (name : String) : Option (List Char) → String
  | none => name
  | some argument => name ++ " " ++ String.ofList argument

/-- Reads the style of a passage once more, as the passage is shown. -/
def lookUp : Part → Except Fault Unit
  | .text _ => .ok ()
  | .tag _ name argument =>
    if name.head? = some '/' then .ok ()
    else do discard (nameOf (styleOf (← nameOf (String.ofList name)) argument))

/-- What remains of parts, if every style in them can be read. -/
def remaining (ps : List Part) : Except Fault (List Char) := do
  let cs ← plainOf [] ps
  forM ps lookUp
  return cs

/-- The plain text of a marked-up message. -/
def plain (cs : List Char) : Except Fault (List Char) :=
  if cs.contains '[' then remaining (parts cs) else .ok (shown cs)

end DomainAtlas.Console.Markup
