/-!
Plain text: what is left of a text when the control characters and the control sequences of a
terminal are taken out of it, or only the codes of colours.

A sequence begins with ESC, and the characters behind ESC say where it ends. Line breaks and the
other blanks among the control characters stay, and one of them interrupts a sequence that is not a
string: what follows stays too, until another control character lets the sequence go on. Nothing
closes a sequence at the end of the text, so one that is open takes with it all that follows.
-/

namespace Preflight.Terminal

/-- Where a character stands: outside every sequence, or how far into which kind of sequence. -/
inductive Mode where
  | outside
  /-- Right behind ESC. -/
  | escape
  /-- Behind ESC and a character that asks for more; one from `0` to `~` ends the sequence. -/
  | escapeMore
  /-- In a sequence that one from `@` to `~` ends. -/
  | control
  /-- At the head of a device string, before and behind its parameters. -/
  | deviceHead
  | deviceParameters
  | deviceMore
  /-- In a string that only its terminator ends. -/
  | string
  /-- In a command that a terminator or BEL ends. -/
  | command
  deriving DecidableEq, Repr

/-- The control characters that are blank. -/
def isBlankControl (c : Char) : Bool :=
  c == '\t' || c == '\n' || c == '\x0c' || c == '\r'

/-- Whether a character outside every sequence stays. -/
def isPlain (c : Char) : Bool :=
  isBlankControl c || (0x20 ≤ c.toNat && c.toNat != 0x7F)

/-- The mode behind a character that stands right behind ESC. -/
def afterEscape (c : Char) : Mode :=
  match c with
  | '[' => .control
  | ']' => .command
  | 'P' => .deviceHead
  | 'X' => .string
  | '^' => .string
  | '_' => .string
  | c =>
      if 0x20 ≤ c.toNat && c.toNat < 0x30 then .escapeMore
      else if 0x30 ≤ c.toNat && c.toNat < 0x7F then .outside
      else .escape

/-- Whether the byte `9C` is part of a character. As a control character by itself it is the
terminator of strings, and as a part it counts too. -/
def holdsTerminator (c : Char) : Bool :=
  (String.utf8EncodeChar c).contains 0x9C

/-- The mode behind a character of a sequence that is no control character. -/
def Mode.next (mode : Mode) (c : Char) : Mode :=
  let code := c.toNat
  match mode with
  | .outside => .outside
  | .escape => afterEscape c
  | .escapeMore => if 0x30 ≤ code && code < 0x7F then .outside else .escapeMore
  | .control => if 0x40 ≤ code && code < 0x7F then .outside else .control
  | .deviceHead =>
      if 0x7F ≤ code then .deviceHead
      else if code < 0x30 then .deviceMore
      else if code < 0x40 then .deviceParameters
      else .string
  | .deviceParameters =>
      if 0x7F ≤ code then .deviceParameters
      else if code < 0x30 then .deviceMore
      else if code < 0x3C then .deviceParameters
      else .string
  | .deviceMore =>
      if 0x7F ≤ code then .deviceMore
      else if code < 0x30 then .deviceMore
      else .string
  | .string => if holdsTerminator c then .outside else .string
  | .command => .command

/-- Whether a blank control character interrupts a sequence. -/
def Mode.yieldsToBlank : Mode → Bool
  | .escape => true
  | .escapeMore => true
  | .control => true
  | _ => false

structure Stand where
  mode : Mode
  interrupted : Bool
  deriving DecidableEq, Repr

def Stand.outside : Stand := ⟨.outside, false⟩

/-- The stand behind a character, and whether the character stays. ESC begins a sequence and CAN and
SUB end one, whatever the mode. A character beyond ASCII ends a sequence that is interrupted. -/
def Stand.step (stand : Stand) (c : Char) : Stand × Bool :=
  if c = '\x1b' then (⟨.escape, false⟩, false)
  else if c = '\x18' || c = '\x1a' then (.outside, false)
  else if stand.mode = .outside then (.outside, isPlain c)
  else if stand.interrupted then
    if 0x80 ≤ c.toNat then (.outside, true) else (⟨stand.mode, isPlain c⟩, isPlain c)
  else if c.toNat < 0x20 then
    if stand.mode.yieldsToBlank && isBlankControl c then (⟨stand.mode, true⟩, true)
    else if stand.mode = .command && c = '\x07' then (.outside, false)
    else (stand, false)
  else (⟨stand.mode.next c, false⟩, false)

/-- The characters that stay of those behind some stand. -/
def Stand.kept (stand : Stand) : List Char → List Char
  | [] => []
  | c :: rest =>
      let (after, stays) := stand.step c
      if stays then c :: after.kept rest else after.kept rest

def plainText (text : String) : String :=
  String.ofList (Stand.outside.kept text.toList)

/-- The characters of a text without the codes of colours: ESC, a bracket, numbers with semicolons
between them, and the letter `m`. -/
def withoutCodes : List Char → List Char
  | [] => []
  | c :: rest =>
      let numbers := ((rest.drop 1).takeWhile fun d => d.isDigit || d == ';').length
      if c == '\x1b' && rest.head? == some '[' && rest[numbers + 1]? == some 'm' then
        withoutCodes (rest.drop (numbers + 2))
      else c :: withoutCodes rest
  termination_by chars => chars.length
  decreasing_by all_goals (simp only [List.length_cons, List.length_drop]; omega)

def uncoloured (text : String) : String :=
  String.ofList (withoutCodes text.toList)

/-- Characters without ESC in front of others stay, and open no code. -/
theorem withoutCodes_append {front : List Char} (h : '\x1b' ∉ front) (back : List Char) :
    withoutCodes (front ++ back) = front ++ withoutCodes back := by
  induction front with
  | nil => rfl
  | cons c rest ih =>
      obtain ⟨hc, hrest⟩ : '\x1b' ≠ c ∧ '\x1b' ∉ rest := by simpa using h
      have hne : (c == '\x1b') = false := by simpa using Ne.symm hc
      rw [List.cons_append, withoutCodes]
      simp only [hne, Bool.false_and, Bool.false_eq_true, if_false, ih hrest, List.cons_append]

/-- Without ESC there is no code. -/
theorem withoutCodes_of_notMem {chars : List Char} (h : '\x1b' ∉ chars) :
    withoutCodes chars = chars := by
  have alone := withoutCodes_append h []
  rwa [withoutCodes, List.append_nil] at alone

end Preflight.Terminal
