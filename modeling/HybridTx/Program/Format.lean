import HybridTx.Program.Real
import HybridTx.Script.Arithmetic

/-! Texts made from a format: characters, escapes, and directives that take arguments. -/

namespace HybridTx.Program

open Script (isNameStart)

/-! Escapes -/

/-- An octal digit. -/
def isOctalDigit (c : Char) : Bool := '0' ≤ c && c ≤ '7'

/-- The octal digits at the front, at most `count` of them, as a character, and what follows. -/
def takeOctal (count : Nat) (text : List Char) : Char × List Char :=
  let digits := (text.take count).takeWhile isOctalDigit
  (Char.ofNat (digits.foldl (fun n c => n * 8 + (c.toNat - 48)) 0 % 256), text.drop digits.length)

/-- The hexadecimal digits at the front, at most `count` of them, as a number, and what follows. -/
def takeHex (count : Nat) (text : List Char) : Nat × List Char :=
  let digits := (text.take count).takeWhile (Text.isDigitOf 16)
  (Text.digitsToNat 16 0 digits, text.drop digits.length)

/-- The character that a letter behind a backslash stands for. -/
def escapeLetter? : Char → Option Char
  | 'a' => some '\x07'
  | 'b' => some '\x08'
  | 'e' => some '\x1b'
  | 'f' => some '\x0c'
  | 'n' => some '\n'
  | 'r' => some '\r'
  | 't' => some '\t'
  | 'v' => some '\x0b'
  | '\\' => some '\\'
  | _ => none

/-- The two habits of writing formats: that of scripts and that of programs. -/
inductive Habit
  | script
  | program
deriving DecidableEq

/-- What an escape comes to. -/
inductive Escaped
  | text (written : Octets) (rest : List Char)
  | ending
  | fault (reason : Octets)

/-- A number in hexadecimal digits, filled up to a width. -/
def hexName (width number : Nat) : Octets :=
  let digits := (Nat.toDigits 16 number).map Char.toUpper
  String.ofList (List.replicate (width - digits.length) '0' ++ digits)

/-- A character by its number in `count` digits. Those that are not a byte of their own keep their
name. -/
def namedCharacter (letter : Char) (count : Nat) (text : List Char) : Escaped :=
  let digits := (text.take count).takeWhile (Text.isDigitOf 16)
  let number := Text.digitsToNat 16 0 digits
  if digits.length < count then .fault "missing hexadecimal number in escape"
  else if 0xd800 ≤ number ∧ number ≤ 0xdfff then
    .fault (String.ofList ("invalid universal character name \\".toList ++ letter :: digits))
  else if number < 128 then .text (String.singleton (Char.ofNat number)) (text.drop count)
  else if number < 65536 then .text ("\\u" ++ hexName 4 number) (text.drop count)
  else .text ("\\U" ++ hexName 8 number) (text.drop count)

/-- What an escape stands for, and what follows it. A zero may stand before octal digits in an
argument, and not in a format. -/
def readEscape (habit : Habit) (argument : Bool) (text : List Char) : Escaped :=
  match text with
  | [] => .text "\\" []
  | c :: rest =>
    match escapeLetter? c with
    | some d => .text (String.singleton d) rest
    | none =>
      if isOctalDigit c then
        let (value, rest) := if argument ∧ c = '0' then takeOctal 3 rest else takeOctal 3 text
        .text (String.singleton value) rest
      else
        match c, habit with
        | 'c', .program => .ending
        | 'c', .script => if argument then .ending else .text "\\" text
        | '"', .program => .text "\"" rest
        | 'x', .program =>
          let (value, behind) := takeHex 2 rest
          if behind.length = rest.length then .fault "missing hexadecimal number in escape"
          else .text (String.singleton (Char.ofNat value)) behind
        | 'u', .program => namedCharacter c 4 rest
        | 'U', .program => namedCharacter c 8 rest
        | _, _ => .text "\\" text

/-- A text with its escapes replaced, and what ended it before its time. -/
def unescape (habit : Habit) : (fuel : Nat) → List Char → Octets × Option Escaped
  | 0, _ | _, [] => ("", none)
  | fuel + 1, '\\' :: rest =>
    match readEscape habit true rest with
    | .text text rest =>
      let (more, stop?) := unescape habit fuel rest
      (text ++ more, stop?)
    | stop => ("", some stop)
  | fuel + 1, c :: rest =>
    let (more, stop?) := unescape habit fuel rest
    (String.singleton c ++ more, stop?)

/-! Directives -/

/-- How a value is shown. -/
structure Directive where
  left : Bool := false
  plus : Bool := false
  blank : Bool := false
  alternate : Bool := false
  zeros : Bool := false
  width : Nat := 0
  places : Option Nat := none

namespace Directive

/-- Fills a text up to the width. -/
def fill (directive : Directive) (text : Octets) : Octets :=
  let blanks := String.ofList (List.replicate (directive.width - text.length) ' ')
  if directive.left then text ++ blanks else blanks ++ text

/-- Fills a number up to the width, perhaps with zeros behind its sign. -/
def fillNumber (directive : Directive) (sign digits : Octets) (zeros : Bool) : Octets :=
  if zeros ∧ !directive.left then
    let count := directive.width - (sign.length + digits.length)
    sign ++ String.ofList (List.replicate count '0') ++ digits
  else directive.fill (sign ++ digits)

/-- The sign before a number. -/
def sign (directive : Directive) (negative : Bool) : Octets :=
  if negative then "-" else if directive.plus then "+" else if directive.blank then " " else ""

/-- Digits, at least as many as the directive asks for. -/
def digits (directive : Directive) (base n : Nat) : Octets :=
  let shown := String.ofList (Nat.toDigits base n)
  match directive.places with
  | some 0 => if n = 0 then "" else shown
  | some places => String.ofList (List.replicate (places - shown.length) '0') ++ shown
  | none => shown

/-- A whole number with a sign. -/
def integer (directive : Directive) (value : Int) : Octets :=
  directive.fillNumber (directive.sign (value < 0)) (directive.digits 10 value.natAbs)
    (directive.zeros && directive.places.isNone)

/-- A whole number without a sign, in a base. -/
def natural (directive : Directive) (kind : Char) (value : Nat) : Octets :=
  let zeros := directive.zeros && directive.places.isNone
  match kind with
  | 'o' =>
    let digits := directive.digits 8 value
    directive.fillNumber "" (if directive.alternate ∧ !digits.startsWith "0" then "0" ++ digits
      else digits) zeros
  | 'u' => directive.fillNumber "" (directive.digits 10 value) zeros
  | kind =>
    let digits := directive.digits 16 value
    let mark := if directive.alternate ∧ value ≠ 0 then "0x" else ""
    if kind = 'X' then directive.fillNumber mark.toUpper digits.toUpper zeros
    else directive.fillNumber mark digits zeros

/-- A number with a fraction. -/
def real (directive : Directive) (kind : Char) (value : Real) : Octets :=
  let places := directive.places.getD 6
  let digits := match kind with
    | 'f' | 'F' => value.fixed places
    | 'e' => value.scientific places "e"
    | 'E' => value.scientific places "E"
    | 'G' => value.general places "E" directive.alternate
    | _ => value.general places "e" directive.alternate
  directive.fillNumber (directive.sign value.negative) digits directive.zeros

end Directive

/-! Arguments -/

/-- What was written, the last first, each with its stream; what is left of the arguments; and the
status so far. -/
structure Printing where
  written : List (Nat × Octets) := []
  args : List Octets
  status : Nat := 0
  stopped : Bool := false

namespace Printing

/-- Writes a text. -/
def put (printing : Printing) (text : Octets) : Printing :=
  { printing with written := (1, text) :: printing.written }

/-- Complains, with a status to leave. -/
def complain (printing : Printing) (text : Octets) (status : Nat) : Printing :=
  { printing with written := (2, text) :: printing.written, status }

/-- Ends all output, with a complaint if an escape was at fault. -/
def stop (printing : Printing) : Escaped → Printing
  | .fault reason => { printing.complain reason 1 with stopped := true }
  | .text .. | .ending => { printing with stopped := true }

/-- Takes an argument. -/
def next (printing : Printing) : Option Octets × Printing :=
  match printing.args with
  | arg :: args => (some arg, { printing with args })
  | [] => (none, printing)

end Printing

/-- What can be said of an argument that should be a number. -/
inductive NumberFault
  | missing
  | partly
  | outside

/-- The wording of a fault of a number. -/
def NumberFault.message (habit : Habit) (text : Octets) (fault : NumberFault) : Octets :=
  match habit, fault with
  | .script, missing => text ++ ": expected numeric value"
  | .script, partly => text ++ ": not completely converted"
  | .script, outside => text ++ ": Numerical result out of range"
  | .program, missing => "'" ++ text ++ "': expected a numeric value"
  | .program, partly => "'" ++ text ++ "': value not completely converted"
  | .program, outside => "'" ++ text ++ "': Numerical result out of range"

/-- Blanks at the front of a number. -/
def isNumberBlank (c : Char) : Bool := c == ' ' || (9 ≤ c.toNat && c.toNat ≤ 13)

/-- Reads a whole number: decimal, or marked as hexadecimal or octal, or the number of a character
behind a quote. It stays between the bounds. -/
def readInteger (low high : Int) (text : Octets) : Int × Option NumberFault :=
  match text.toList with
  | [] => (0, none)
  | c :: letters =>
    if c = '"' ∨ c = '\'' then
      match letters with
      | d :: _ => (d.toNat, none)
      | [] => (0, some .missing)
    else
      let start := (c :: letters).dropWhile isNumberBlank
      let (negative, digits) := match start with
        | '-' :: digits => (true, digits)
        | '+' :: digits => (false, digits)
        | digits => (false, digits)
      match digits with
      | d :: _ =>
        if d.isDigit then
          let (value, rest) := Script.Arithmetic.readNumber digits
          let value : Int := if negative then -(value : Int) else value
          let fault := if rest ≠ [] then some NumberFault.partly
            else if value < low ∨ high < value then some .outside else none
          (max low (min high value), fault)
        else (0, some .missing)
      | [] => (0, some .missing)

/-- Reads a number with a fraction. -/
def readReal (text : Octets) : Real × Option NumberFault :=
  let zero : Real := ⟨false, 0, 1⟩
  match text.toList with
  | [] => (zero, none)
  | c :: letters =>
    if c = '"' ∨ c = '\'' then
      match letters with
      | d :: _ => (⟨false, d.toNat, 1⟩, none)
      | [] => (zero, some .missing)
    else
      match Real.read? ((c :: letters).dropWhile isNumberBlank) with
      | some (value, rest) => (value, if rest = [] then none else some .partly)
      | none => (zero, some .missing)

/-- A format with a habit of writing it. -/
structure Format where
  habit : Habit
  text : List Char

namespace Format

/-- Reports a fault of a number before it is shown. -/
def report (habit : Habit) (text : Octets) (fault : Option NumberFault) (printing : Printing) :
    Printing :=
  match fault with
  | some fault => printing.complain (fault.message habit text) 1
  | none => printing

/-- Takes a width or a number of places that an argument gives. -/
def takeCount (habit : Habit) (printing : Printing) : Int × Printing :=
  let (arg?, printing) := printing.next
  let text := arg?.getD ""
  let (value, fault) := readInteger (-(2 ^ 31)) (2 ^ 31 - 1) text
  (value, report habit text fault printing)

/-- The number that digits at the front spell, and what follows. -/
def takeDigits (text : List Char) : Nat × List Char :=
  let digits := text.takeWhile Char.isDigit
  ((String.ofList digits).toNat?.getD 0, text.drop digits.length)

/-- Reads a directive behind its percent sign. -/
def readDirective (habit : Habit) (text : List Char) (printing : Printing) :
    Directive × List Char × Printing :=
  let flags := text.takeWhile fun c => c ∈ ['#', '-', '+', ' ', '0', '\'']
  let text := text.drop flags.length
  let directive : Directive :=
    { left := '-' ∈ flags, plus := '+' ∈ flags, blank := ' ' ∈ flags, alternate := '#' ∈ flags
      zeros := '0' ∈ flags }
  let (directive, text, printing) := match text with
    | '*' :: rest =>
      let (width, printing) := takeCount habit printing
      let left := directive.left || width < 0
      ({ directive with width := width.natAbs, left }, rest, printing)
    | text =>
      let (width, rest) := takeDigits text
      ({ directive with width }, rest, printing)
  let (directive, text, printing) := match text with
    | '.' :: '*' :: rest =>
      let (places, printing) := takeCount habit printing
      ({ directive with places := if places < 0 then none else some places.toNat }, rest, printing)
    | '.' :: rest =>
      let (places, rest) := takeDigits rest
      ({ directive with places := some places }, rest, printing)
    | text => (directive, text, printing)
  let text := if habit = .program then
    text.dropWhile fun c => c ∈ ['h', 'l', 'L', 'j', 't', 'z'] else text
  (directive, text, printing)

/-- Shows an argument, or tells that there is no such kind of directive. -/
def showArgument (habit : Habit) (directive : Directive) (kind : Char) (printing : Printing) :
    Option Printing :=
  let (arg?, after) := printing.next
  let arg := arg?.getD ""
  let cut (text : Octets) : Octets := match directive.places with
    | some places => (text.take places).toString
    | none => text
  match kind with
  | 's' => some (after.put (directive.fill (cut arg)))
  | 'b' =>
    let (text, stop?) := unescape habit (arg.length + 1) arg.toList
    let after := after.put (directive.fill (cut text))
    some (stop?.elim after after.stop)
  | 'c' => some (after.put (directive.fill (String.singleton (arg.toList.headD '\x00'))))
  | 'd' | 'i' =>
    let (value, fault) := readInteger (-(2 ^ 63)) (2 ^ 63 - 1) arg
    some ((report habit arg fault after).put (directive.integer value))
  | 'o' | 'u' | 'x' | 'X' =>
    let (value, fault) := readInteger (-(2 ^ 63)) (2 ^ 64 - 1) arg
    some ((report habit arg fault after).put (directive.natural kind (value % 2 ^ 64).toNat))
  | 'e' | 'E' | 'f' | 'F' | 'g' | 'G' =>
    let (value, fault) := readReal arg
    some ((report habit arg fault after).put (directive.real kind value))
  | _ => none

/-- Fills in a format once, `spent` what was read of its directives. -/
def fillOnce (habit : Habit) : (fuel : Nat) → List Char → Printing → Printing
  | 0, _, printing | _, [], printing => printing
  | fuel + 1, '\\' :: rest, printing =>
    match readEscape habit false rest with
    | .text text rest => fillOnce habit fuel rest (printing.put text)
    | stop => printing.stop stop
  | fuel + 1, '%' :: '%' :: rest, printing => fillOnce habit fuel rest (printing.put "%")
  | fuel + 1, '%' :: rest, printing =>
    let (directive, behind, printing) := readDirective habit rest printing
    let refuse (kind : List Char) : Printing :=
      let spelled := String.ofList ('%' :: rest.take (rest.length - behind.length) ++ kind)
      match habit with
      | .script => { printing.complain (spelled ++ ": invalid directive") 2 with stopped := true }
      | .program =>
        { printing.complain (spelled ++ ": invalid conversion specification") 1 with
          stopped := true }
    match behind, habit with
    | [], .script => { printing.complain "missing format character" 2 with stopped := true }
    | [], .program => refuse []
    | kind :: behind, _ =>
      match showArgument habit directive kind printing with
      | some printing => if printing.stopped then printing else fillOnce habit fuel behind printing
      | none => refuse [kind]
  | fuel + 1, c :: rest, printing =>
    let plain := rest.takeWhile fun c => c ≠ '\\' ∧ c ≠ '%'
    fillOnce habit fuel (rest.drop plain.length) (printing.put (String.ofList (c :: plain)))

/-- Fills in a format again as long as it takes arguments and some are left. -/
def fillAll (format : Format) : (fuel : Nat) → Printing → Printing
  | 0, printing => printing
  | fuel + 1, printing =>
    let after := fillOnce format.habit (format.text.length + 1) format.text printing
    if after.stopped ∨ after.args = [] ∨ after.args.length = printing.args.length then after
    else fillAll format fuel after

/-- Fills in a format with arguments. -/
def print (format : Format) (args : List Octets) : Printing :=
  format.fillAll (args.length + 1) { args }

end Format

/-- The text that is written of words, and whether a line break follows, by the habit of scripts:
escapes always count. -/
def echoText (args : List Octets) : Octets :=
  let (args, ending) : List Octets × Octets := match args with
    | "-n" :: args => (args, "")
    | args => (args, "\n")
  let (text, stop?) := unescape .script ((" ".intercalate args).length + 1)
    (" ".intercalate args).toList
  if stop?.isNone then text ++ ending else text

end HybridTx.Program
