import RoleSchema.Xml.Item

/-!
# Tokens of declarations

Outside the root element a document is read as a row of tokens, between which blanks mean nothing.
`Token.next` reads the next one; the root element is itself a token, which stays.
-/

namespace RoleSchema.Xml

/-- A token outside the root element. -/
inductive Token where
  /-- A comment or a processing instruction. -/
  | aside
  | xmlDeclaration
  /-- The beginning of a declaration, with its keyword. -/
  | opening (keyword : String)
  | closing
  | literal (body : List Char)
  | name (s : String)
  | qname (q : QName)
  /-- Name characters that are no name. -/
  | nameToken
  /-- A name with a mark of repetition. -/
  | repeated
  /-- A word after a number sign. -/
  | hash (s : String)
  | percent
  | parameterReference
  | openBracket
  | closeBracket
  | openSection
  | closeSection
  | openParen
  /-- A parenthesis closed with a mark of repetition, if any. -/
  | closeParen (mark : Option Char)
  | comma
  | bar
  | element
  deriving DecidableEq, Repr

namespace Token

/-- Whether a keyword of a declaration can end before a character. -/
def endsKeyword : List Char → Bool
  | '%' :: c :: _ => !(isBlank c || c == '%')
  | c :: _ => isBlank c
  | [] => false

/-- Reads markup after `<`, but for the root element. -/
def markup : Scanner Token := do
  let c ← Scanner.one fun c => c == '!' || c == '?'
  if c == '?' then
    return if ← Scanner.instruction then .xmlDeclaration else .aside
  let c ← Scanner.peek
  if c == '-' then
    Scanner.exactly ['-']
    Scanner.comment
    return .aside
  if c == '[' then
    Scanner.exactly ['[']
    return .openSection
  let a ← read
  let first ← Scanner.one (isKeywordChar a)
  let others ← Scanner.run (isKeywordChar a)
  if endsKeyword (← get) then return .opening (String.ofList (first :: others))
  Scanner.refuse

/-- Reads a literal and refuses what cannot follow it. -/
def literalAfter (quote : Char) : Scanner Token := do
  let body ← Scanner.many do
    let c ← Scanner.peek
    if c == quote then return none
    return some (← Scanner.one isAllowed)
  let _ ← Scanner.one (· == quote)
  match ← get with
  | [] => return .literal body
  | c :: _ =>
    if isBlank c || c == '>' || c == '%' || c == '[' then return .literal body
    Scanner.refuse

/-- The name in a word of name characters and colons. -/
def ofWord (a : Alphabet) (word : List Char) : Token :=
  let before := word.takeWhile (· != ':')
  match word.dropWhile (· != ':') with
  | [] => if (before.head?.map (isNameStart a)).getD false then .name (String.ofList before)
    else .nameToken
  | _ :: after =>
    if (before.head?.map (isNameStart a)).getD false && !after.isEmpty && after.all (· != ':') then
      .qname ⟨some (String.ofList before), String.ofList after⟩
    else .nameToken

/-- Whether a word is a name with a colon behind it, after which more must come. -/
def isQualifier (a : Alphabet) (word : List Char) : Bool :=
  (word.head?.map (isNameStart a)).getD false && word.dropWhile (· != ':') == [':']

/-- Reads a word of name characters and colons. -/
def word : Scanner Token := do
  let a ← read
  let first ← Scanner.one fun c => isNameChar a c || c == ':'
  let others ← Scanner.run fun c => isNameChar a c || c == ':'
  let t := ofWord a (first :: others)
  match ← get with
  | [] => if isQualifier a (first :: others) then Scanner.endEarly else return t
  | c :: _ =>
    if isBlank c || [">", ")", ",", "|", "[", "%"].contains c.toString then return t
    else if (c == '*' || c == '?' || c == '+') && t != .nameToken then
      let _ ← Scanner.one fun _ => true
      return .repeated
    else Scanner.refuse

/-- Reads what follows a number sign. -/
def hashWord : Scanner Token := do
  let s ← Scanner.name
  match ← get with
  | [] => return .hash s
  | c :: _ =>
    if isBlank c || [")", ">", "%", "|"].contains c.toString then return .hash s
    Scanner.refuse

/-- Reads what follows a percent sign. -/
def afterPercent : Scanner Token := do
  let c ← Scanner.peek
  if isBlank c || c == '%' then return .percent
  let _ ← Scanner.name
  let _ ← Scanner.one (· == ';')
  return .parameterReference

/-- Reads what follows a closing bracket. -/
def afterBracket : Scanner Token := do
  match ← get with
  | [']'] => Scanner.endEarly
  | ']' :: '>' :: rest =>
    set rest
    return .closeSection
  | _ => return .closeBracket

/-- Reads what follows a closing parenthesis. -/
def afterParen : Scanner Token := do
  match ← get with
  | [] => return .closeParen none
  | c :: rest =>
    if c == '*' || c == '?' || c == '+' then
      set rest
      return .closeParen (some c)
    if isBlank c || [">", ",", "|", ")"].contains c.toString then return .closeParen none
    Scanner.refuse

/-- Reads a token that begins with a character and goes on as given. -/
def scanner (c : Char) : Scanner Token :=
  let single (t : Token) : Scanner Token := do
    let _ ← Scanner.one fun _ => true
    return t
  let then_ (s : Scanner Token) : Scanner Token := do
    let _ ← Scanner.one fun _ => true
    s
  match c with
  | '<' => then_ markup
  | '"' | '\'' => then_ (literalAfter c)
  | '%' => then_ afterPercent
  | ']' => then_ afterBracket
  | ')' => then_ afterParen
  | '#' => then_ hashWord
  | ',' => single .comma
  | '[' => single .openBracket
  | '(' => single .openParen
  | '|' => single .bar
  | '>' => single .closing
  | _ => word

/-- Whether a character after `<` begins an element here. Beyond ASCII its name is judged later. -/
def beginsElement (c : Char) : Bool := isNameStart .standard c || 128 ≤ c.toNat

/-- The next token, the text that begins with it, and what is left; nothing where only blanks are
left. -/
def next (a : Alphabet) (text : List Char) :
    Except Fault (Option (Token × List Char × List Char)) :=
  match text.dropWhile isBlank with
  | [] => .ok none
  | '<' :: c :: rest =>
    if beginsElement c then .ok (some (.element, '<' :: c :: rest, '<' :: c :: rest))
    else do
      let (t, after) ← Scanner.token (scanner '<') a ('<' :: c :: rest)
      return some (t, '<' :: c :: rest, after)
  | c :: rest => do
    let (t, after) ← Scanner.token (scanner c) a (c :: rest)
    return some (t, c :: rest, after)

end Token

end RoleSchema.Xml
