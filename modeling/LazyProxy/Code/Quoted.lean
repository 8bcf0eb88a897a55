import LazyProxy.Code.Number

/-!
Quoted literals of Rust source: strings with escapes, raw strings and characters. Each function
gives the value and what follows the literal's closing quote.
-/

namespace LazyProxy.Code

/-- What a quoted literal may hold. -/
inductive QuotedKind where
  /-- Any character. -/
  | text
  /-- Bytes, written as ASCII. -/
  | bytes
  /-- Any character but NUL. -/
  | terminated
deriving DecidableEq

/-- Where an escape sequence stands. -/
inductive Escape where
  | none
  | started
  /-- After `\x`, with the digit read so far. -/
  | byte (high : Option Nat)
  /-- After `\u`. -/
  | codeStart
  /-- After `\u` and a brace, with the count of digits and their value. -/
  | code (digits value : Nat)
  /-- Among the blanks after a line's last backslash; `pending` after a carriage return. -/
  | blanks (pending : Bool)
  /-- After a carriage return in the text. -/
  | carriageReturn

/-- The character that an escape of one letter stands for. -/
def simpleEscape? : Char → Option Char
  | 'n' => some '\n'
  | 'r' => some '\r'
  | 't' => some '\t'
  | '\\' => some '\\'
  | '0' => some '\x00'
  | '\'' => some '\''
  | '"' => some '"'
  | _ => none

/-- Whether two digits may follow `\x`. -/
def QuotedKind.allowsByte (k : QuotedKind) (high low : Nat) : Bool :=
  match k with
  | .text => high < 8
  | .bytes => true
  | .terminated => high != 0 || low != 0

/-- The character of a number, unless there is none. -/
def charOfNat? (n : Nat) : Option Char :=
  if n.isValidChar then some (Char.ofNat n) else none

/-- Reads a quoted text up to its closing quote. `value` is what was read, last character first. -/
def readQuoted (k : QuotedKind) (value : List Char) :
    Escape → List Char → Option (List Char × List Char)
  | _, [] => none
  | .none, c :: cs =>
    if c == '"' then some (value.reverse, cs)
    else if c == '\r' then readQuoted k value .carriageReturn cs
    else if c == '\\' then readQuoted k value .started cs
    else if k == .bytes && c.toNat ≥ 128 then none
    else if k == .terminated && c.toNat == 0 then none
    else readQuoted k (c :: value) .none cs
  | .carriageReturn, c :: cs =>
    if c == '\n' then readQuoted k ('\n' :: value) .none cs else none
  | .started, c :: cs =>
    if c == 'x' then readQuoted k value (.byte none) cs
    else if c == 'u' && k != .bytes then readQuoted k value .codeStart cs
    else if c == '\n' then readQuoted k value (.blanks false) cs
    else if c == '\r' then readQuoted k value (.blanks true) cs
    else if c == '0' && k == .terminated then none
    else
      match simpleEscape? c with
      | some e => readQuoted k (e :: value) .none cs
      | none => none
  | .byte high, c :: cs =>
    match digitValue? c, high with
    | none, _ => none
    | some d, none => readQuoted k value (.byte (some d)) cs
    | some d, some h =>
      if k.allowsByte h d then readQuoted k (Char.ofNat (h * 16 + d) :: value) .none cs else none
  | .codeStart, c :: cs =>
    if c == '\x7b' then readQuoted k value (.code 0 0) cs else none
  | .code digits n, c :: cs =>
    if c == '_' && digits > 0 then readQuoted k value (.code digits n) cs
    else if c == '\x7d' && digits > 0 then
      match charOfNat? n with
      | some e =>
        if k == .terminated && n == 0 then none else readQuoted k (e :: value) .none cs
      | none => none
    else
      match digitValue? c with
      | some d =>
        if digits < 6 then readQuoted k value (.code (digits + 1) (n * 16 + d)) cs else none
      | none => none
  | .blanks true, c :: cs =>
    if c == '\n' then readQuoted k value (.blanks false) cs else none
  | .blanks false, c :: cs =>
    if c == ' ' || c == '\t' || c == '\n' then readQuoted k value (.blanks false) cs
    else if c == '\r' then readQuoted k value (.blanks true) cs
    else if c == '"' then some (value.reverse, cs)
    else if c == '\\' then readQuoted k value .started cs
    else if k == .bytes && c.toNat ≥ 128 then none
    else if k == .terminated && c.toNat == 0 then none
    else readQuoted k (c :: value) .none cs

/-- Reads a raw text up to a quote that `hashes` number signs follow. -/
def readRaw (k : QuotedKind) (hashes : Nat) (value : List Char) :
    List Char → Option (List Char × List Char)
  | [] => none
  | c :: cs =>
    if c == '"' && (cs.take hashes).length == hashes && (cs.take hashes).all (· == '#') then
      some (value.reverse, cs.drop hashes)
    else if c == '\r' && cs.head? != some '\n' then none
    else if k == .bytes && c.toNat ≥ 128 then none
    else if k == .terminated && c.toNat == 0 then none
    else readRaw k hashes (c :: value) cs

/-- Reads a raw text from the number signs in front of its opening quote. -/
def readHashed (k : QuotedKind) (cs : List Char) : Option (List Char × List Char) :=
  let hashes := (cs.takeWhile (· == '#')).length
  match cs.drop hashes with
  | '"' :: rest => if hashes < 256 then readRaw k hashes [] rest else none
  | _ => none

/-- Reads a character literal from behind its opening quote. -/
def readCharacter (bytes : Bool) (cs : List Char) : Option (Char × List Char) :=
  let closed (c : Char) : List Char → Option (Char × List Char)
    | '\'' :: rest => some (c, rest)
    | _ => none
  match cs with
  | '\\' :: 'x' :: h :: l :: rest => do
    let high ← digitValue? h
    let low ← digitValue? l
    if bytes || high < 8 then closed (Char.ofNat (high * 16 + low)) rest else none
  | '\\' :: 'u' :: '\x7b' :: rest => do
    let digits := (rest.takeWhile (· != '\x7d')).filter (· != '_')
    let values ← digits.mapM digitValue?
    let c ← charOfNat? (values.foldl (fun n d => n * 16 + d) 0)
    if bytes || digits.isEmpty || digits.length > 6 || rest.head? == some '_' then none
    else closed c ((rest.dropWhile (· != '\x7d')).drop 1)
  | '\\' :: c :: rest => do
    let e ← simpleEscape? c
    closed e rest
  | c :: rest => if bytes && c.toNat ≥ 128 then none else closed c rest
  | [] => none

end LazyProxy.Code
