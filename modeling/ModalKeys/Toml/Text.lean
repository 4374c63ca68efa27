import ModalKeys.Toml.Scan

/-!
# Strings of a settings document

Four kinds: between quotes with escapes, between apostrophes as they stand, and both over several
lines between tripled marks. A tripled mark may be preceded by up to two marks that are text.
-/

namespace ModalKeys.Toml

def hexValue? (c : Char) : Option Nat :=
  if c.isDigit then some (c.toNat - 0x30)
  else if 'a' ≤ c ∧ c ≤ 'f' then some (c.toNat - 0x57)
  else if 'A' ≤ c ∧ c ≤ 'F' then some (c.toNat - 0x37)
  else none

def codePoint? (digits : List Char) : Option Char :=
  match digits.mapM hexValue? with
  | none => none
  | some values =>
      let code := values.foldl (fun total value => total * 16 + value) 0
      if code.isValidChar then some (Char.ofNat code) else none

/-- Takes what follows the backslash of an escape. -/
def escape? : Scanner Char
  | 'b' :: rest => some ('\x08', rest)
  | 't' :: rest => some ('\t', rest)
  | 'n' :: rest => some ('\n', rest)
  | 'f' :: rest => some ('\x0c', rest)
  | 'r' :: rest => some ('\r', rest)
  | '\x22' :: rest => some ('\x22', rest)
  | '\\' :: rest => some ('\\', rest)
  | 'u' :: rest =>
      if rest.length < 4 then none else (codePoint? (rest.take 4)).map (·, rest.drop 4)
  | 'U' :: rest =>
      if rest.length < 8 then none else (codePoint? (rest.take 8)).map (·, rest.drop 8)
  | _ => none

def isQuotedChar (c : Char) : Bool := isCommentChar c && c != '\x22' && c != '\\'

def isLiteralChar (c : Char) : Bool := isCommentChar c && c != '\x27'

def quotedStep : Scanner Char
  | '\\' :: rest => escape? rest
  | cs => charOf isQuotedChar cs

def quoted? : Scanner (List Char) := fun cs =>
  let (chars, rest) := many quotedStep cs
  (expect '\x22' rest).map (chars, ·)

def literal? : Scanner (List Char) := fun cs =>
  let chars := cs.takeWhile isLiteralChar
  (expect '\x27' (cs.dropWhile isLiteralChar)).map (chars, ·)

/-- Takes one or two marks that are text because another character follows them. -/
def marks? (mark : Char) : Scanner (List Char)
  | a :: b :: c :: rest =>
      if a = mark ∧ b = mark ∧ c ≠ mark then some ([a, b], c :: rest)
      else if a = mark ∧ b ≠ mark then some ([a], b :: c :: rest)
      else none
  | [a, b] => if a = mark ∧ b ≠ mark then some ([a], [b]) else none
  | _ => none

/-- Takes the tripled mark that ends a string, with up to two marks of text before it. -/
def closing? (mark : Char) : Scanner (List Char) := fun cs =>
  let count := min ((cs.takeWhile (· = mark)).length) 5
  if count < 3 then none else some (List.replicate (count - 3) mark, cs.drop count)

/-- Takes a backslash at the end of a line with all blank space after it. -/
def continuation? (cs : List Char) : Option (List Char) :=
  (newline? (skipBlanks cs)).map fun rest =>
    (many (fun cs => match charOf isBlank cs with
      | some (_, rest) => some ((), rest)
      | none => (newline? cs).map ((), ·)) rest).2

def longQuotedStep : Scanner (List Char)
  | '\\' :: rest =>
      match continuation? rest with
      | some rest => some ([], rest)
      | none => (escape? rest).map fun (c, rest) => ([c], rest)
  | cs =>
      match charOf isQuotedChar cs with
      | some (c, rest) => some ([c], rest)
      | none =>
          match newline? cs with
          | some rest => some (['\n'], rest)
          | none => marks? '\x22' cs

def longLiteralStep : Scanner (List Char) := fun cs =>
  match charOf isLiteralChar cs with
  | some (c, rest) => some ([c], rest)
  | none =>
      match newline? cs with
      | some rest => some (['\n'], rest)
      | none => marks? '\x27' cs

/-- Takes a string of several lines after its opening mark; a line break right there is dropped. -/
def long? (step : Scanner (List Char)) (mark : Char) : Scanner (List Char) := fun cs =>
  let (pieces, rest) := many step ((newline? cs).getD cs)
  (closing? mark rest).map fun (last, rest) => (pieces.flatten ++ last, rest)

def string? : Scanner (List Char)
  | '\x22' :: '\x22' :: '\x22' :: rest => long? longQuotedStep '\x22' rest
  | '\x27' :: '\x27' :: '\x27' :: rest => long? longLiteralStep '\x27' rest
  | '\x22' :: rest => quoted? rest
  | '\x27' :: rest => literal? rest
  | _ => none

def shortString? : Scanner (List Char)
  | '\x22' :: rest => quoted? rest
  | '\x27' :: rest => literal? rest
  | _ => none

end ModalKeys.Toml
