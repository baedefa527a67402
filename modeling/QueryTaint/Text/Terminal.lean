namespace QueryTaint.Terminal

-- What the characters read so far have begun.
inductive Mode where
  | text
  -- The escape character.
  | escape
  -- The escape character and signs of which the sequence is named by a last one.
  | named
  -- A sequence that a letter ends.
  | control
  -- A title, which a bell ends.
  | title
  -- A command for the device: the start of its head.
  | command
  -- The parameters in the head of a command.
  | parameters
  -- The signs of which a command is named by a last one.
  | signs
  -- The string that belongs to a command, or stands on its own.
  | payload
  deriving DecidableEq

def isLayout (char : Char) : Bool :=
  char = '\t' || char = '\n' || char = '\x0c' || char = '\r'

namespace Mode

-- After a character of one byte.
def next (mode : Mode) (char : Char) : Mode :=
  let code := char.toNat
  if code = 0x1b then escape
  else if code = 0x18 ∨ code = 0x1a then text
  else
    match mode with
    | text => text
    | escape =>
      if code < 0x20 ∨ code = 0x7f then escape
      else if code < 0x30 then named
      else
        match char with
        | '[' => control
        | ']' => title
        | 'P' => command
        | 'X' | '^' | '_' => payload
        | _ => text
    | named => if code < 0x30 ∨ code = 0x7f then named else text
    | control => if code < 0x40 ∨ code = 0x7f then control else text
    | title => if code = 0x07 then text else title
    | command =>
      if code < 0x20 ∨ code = 0x7f then command
      else if code < 0x30 then signs
      else if code < 0x40 then parameters
      else payload
    | parameters =>
      if code < 0x20 ∨ code = 0x7f then parameters
      else if code < 0x30 then signs
      else if code < 0x3c then parameters
      else payload
    | signs => if code < 0x30 ∨ code = 0x7f then signs else payload
    | payload => payload

-- After a character of several bytes, which has no meaning in a sequence. One of its bytes may be
-- the string terminator, though, and a string ends there.
def nextWide (mode : Mode) (char : Char) : Mode :=
  match mode with
  | payload => if (String.utf8EncodeChar char).contains 0x9c then text else payload
  | mode => mode

-- Titles, commands and strings hold white space of their own; elsewhere it breaks a sequence off.
def showsLayout : Mode → Bool
  | text | escape | named | control => true
  | title | command | parameters | signs | payload => false

-- The mode after a character, and what is printed of it.
def step (mode : Mode) (char : Char) : Mode × List Char :=
  if 0x80 ≤ char.toNat then (mode.nextWide char, if mode = text then [char] else [])
  else if isLayout char && mode.showsLayout then (text, [char])
  else if mode = text ∧ 0x20 ≤ char.toNat ∧ char.toNat < 0x7f then (text, [char])
  else (mode.next char, [])

def print (mode : Mode) : List Char → List Char
  | [] => []
  | char :: rest => (mode.step char).2 ++ print (mode.step char).1 rest

end Mode

def print (text : String) : String := String.ofList (Mode.text.print text.toList)

end QueryTaint.Terminal
