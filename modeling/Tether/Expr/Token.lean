import Tether.Expr.Basic
import Tether.Number.Decimal

/-! The tokens of an expression. `Token.scan` cuts a text into lexemes with white space between;
`first_append` says that a lexeme and the rest make up the text it was cut from. -/
namespace Tether

inductive Sym where
  | eq | ne | le | ge | and | or | plus | minus | star | slash | percent | lt | gt | bang
  | question | colon | lparen | rparen | lbracket | rbracket | comma | dot
  deriving DecidableEq, Repr

def Sym.text : Sym → String
  | .eq => "==" | .ne => "!=" | .le => "<=" | .ge => ">=" | .and => "&&" | .or => "||"
  | .plus => "+" | .minus => "-" | .star => "*" | .slash => "/" | .percent => "%"
  | .lt => "<" | .gt => ">" | .bang => "!" | .question => "?" | .colon => ":"
  | .lparen => "(" | .rparen => ")" | .lbracket => "[" | .rbracket => "]"
  | .comma => "," | .dot => "."

inductive Tok where
  | int (n : Int64)
  | float (x : Float)
  | str (s : String)
  | ident (s : String)
  | sym (s : Sym)

/-- A token as error messages show it; a string stands raw between quotes. -/
def Tok.text : Tok → String
  | .int n => String.ofList (Number.intText n.toInt)
  | .float x => String.ofList (Number.plainText x)
  | .str s => "\"" ++ s ++ "\""
  | .ident s => s
  | .sym s => s.text

/-- A token with its text and the byte offset where that begins. -/
structure Token where
  tok : Tok
  start : Nat
  lexeme : List Char

def Token.stop (t : Token) : Nat := t.start + Text.bytes t.lexeme

inductive SyntaxFault where
  | empty
  | integerRange
  | unknownEscape (c : Char)
  | unterminatedString
  | unexpectedChar (c : Char)
  | endOfInput
  | unexpected (found : Tok)
  | expected (wanted : Sym) (found : Option Tok)
  | nameAfterDot
  | tooDeep (limit : Nat)

def SyntaxFault.message : SyntaxFault → String
  | .empty => "empty expression"
  | .integerRange => "integer literal out of range"
  | .unknownEscape c => "unknown escape `\\" ++ c.toString ++ "`"
  | .unterminatedString => "unterminated string"
  | .unexpectedChar c => "unexpected character `" ++ c.toString ++ "`"
  | .endOfInput => "unexpected end of input"
  | .unexpected t => "unexpected `" ++ t.text ++ "`"
  | .expected s (some t) => "expected `" ++ s.text ++ "`, found `" ++ t.text ++ "`"
  | .expected s none => "expected `" ++ s.text ++ "`, found end of input"
  | .nameAfterDot => "expected a name after `.`"
  | .tooDeep n => "expression nested deeper than " ++ toString n

structure SyntaxError where
  offset : Nat
  fault : SyntaxFault

def SyntaxError.message (e : SyntaxError) : String :=
  e.fault.message ++ " (at column " ++ toString (e.offset + 1) ++ ")"

namespace Token

def digitsValue (ds : List Char) : Nat := ds.foldl (fun n d => 10 * n + (d.toNat - 48)) 0

/-- The number that begins with some digits: a point belongs to it only before another digit. -/
def number (start : Nat) (whole rest : List Char) :
    Except SyntaxError (Tok × List Char × List Char) :=
  match rest with
  | '.' :: d :: rest' =>
    if d.isDigit then
      let fraction := d :: rest'.takeWhile Char.isDigit
      .ok (.float (Float.ofScientific (digitsValue (whole ++ fraction)) true fraction.length),
        whole ++ '.' :: fraction, rest'.dropWhile Char.isDigit)
    else integer whole rest
  | _ => integer whole rest
where
  integer (whole rest : List Char) : Except SyntaxError (Tok × List Char × List Char) :=
    let n := digitsValue whole
    if Number.inRange n then .ok (.int (Int64.ofNat n), whole, rest)
    else .error ⟨start, .integerRange⟩

def unescape? : Char → Option Char
  | 'n' => some '\n'
  | 't' => some '\t'
  | '"' => some '"'
  | '\\' => some '\\'
  | _ => none

/-- The rest of a string from the offset `here`, the quote that opens it standing at `start`:
its value, its text with the closing quote, and what follows. -/
def stringBody (start here : Nat) :
    List Char → Except SyntaxError (List Char × List Char × List Char)
  | [] => .error ⟨start, .unterminatedString⟩
  | '"' :: cs => .ok ([], ['"'], cs)
  | '\\' :: [] => .error ⟨start, .unterminatedString⟩
  | '\\' :: e :: cs =>
    match unescape? e with
    | none => .error ⟨here + 1, .unknownEscape e⟩
    | some c => do
      let (value, text, rest) ← stringBody start (here + 1 + e.utf8Size) cs
      return (c :: value, '\\' :: e :: text, rest)
  | c :: cs => do
    let (value, text, rest) ← stringBody start (here + c.utf8Size) cs
    return (c :: value, c :: text, rest)

def pair? : Char → Char → Option Sym
  | '=', '=' => some .eq
  | '!', '=' => some .ne
  | '<', '=' => some .le
  | '>', '=' => some .ge
  | '&', '&' => some .and
  | '|', '|' => some .or
  | _, _ => none

def single? : Char → Option Sym
  | '+' => some .plus | '-' => some .minus | '*' => some .star | '/' => some .slash
  | '%' => some .percent | '<' => some .lt | '>' => some .gt | '!' => some .bang
  | '?' => some .question | ':' => some .colon | '(' => some .lparen | ')' => some .rparen
  | '[' => some .lbracket | ']' => some .rbracket | ',' => some .comma | '.' => some .dot
  | _ => none

def symbol? (c : Char) : List Char → Option (Sym × List Char × List Char)
  | [] => (single? c).map fun s => (s, [c], [])
  | d :: cs =>
    match pair? c d with
    | some s => some (s, [c, d], cs)
    | none => (single? c).map fun s => (s, [c], d :: cs)

/-- The token at the front of a text that does not begin with white space, its text, and what
follows it. -/
def first (start : Nat) (c : Char) (cs : List Char) :
    Except SyntaxError (Tok × List Char × List Char) :=
  if c.isDigit then
    number start (c :: cs.takeWhile Char.isDigit) (cs.dropWhile Char.isDigit)
  else if isNameStart c then
    let text := c :: cs.takeWhile isNameChar
    .ok (.ident (String.ofList text), text, cs.dropWhile isNameChar)
  else if c = '"' then do
    let (value, text, rest) ← stringBody start (start + 1) cs
    return (.str (String.ofList value), c :: text, rest)
  else
    match symbol? c cs with
    | some (s, text, rest) => .ok (.sym s, text, rest)
    | none => .error ⟨start, .unexpectedChar c⟩

theorem stringBody_append {start here : Nat} {cs value text rest : List Char}
    (h : stringBody start here cs = .ok (value, text, rest)) : cs = text ++ rest := by
  fun_induction stringBody start here cs generalizing value text rest with
  | case1 => cases h
  | case2 => cases h; rfl
  | case3 => cases h
  | case4 => cases h
  | case5 here e cs c _ ih =>
    cases hb : stringBody start (here + 1 + e.utf8Size) cs with
    | error => rw [hb] at h; cases h
    | ok r => rw [hb] at h; cases h; simp [ih hb]
  | case6 here c cs _ _ _ ih =>
    cases hb : stringBody start (here + c.utf8Size) cs with
    | error => rw [hb] at h; cases h
    | ok r => rw [hb] at h; cases h; simp [ih hb]

theorem number_append {start : Nat} {whole cs text rest : List Char} {t : Tok}
    (h : number start whole cs = .ok (t, text, rest)) : whole ++ cs = text ++ rest := by
  have integer {ws rs : List Char} (h : number.integer start ws rs = .ok (t, text, rest)) :
      ws ++ rs = text ++ rest := by
    unfold number.integer at h
    dsimp only at h
    split at h <;> cases h
    rfl
  unfold number at h
  split at h
  · split at h
    · cases h; simp
    · exact integer h
  · exact integer h

theorem symbol?_append {c : Char} {cs text rest : List Char} {s : Sym}
    (h : symbol? c cs = some (s, text, rest)) : c :: cs = text ++ rest ∧ text ≠ [] := by
  cases cs with
  | nil =>
    simp only [symbol?] at h
    obtain ⟨_, _, e⟩ := Option.map_eq_some_iff.1 h
    cases e; simp
  | cons d cs =>
    simp only [symbol?] at h
    split at h
    · cases h; simp
    · obtain ⟨_, _, e⟩ := Option.map_eq_some_iff.1 h
      cases e; simp

theorem first_append {start : Nat} {c : Char} {cs text rest : List Char} {t : Tok}
    (h : first start c cs = .ok (t, text, rest)) : c :: cs = text ++ rest := by
  unfold first at h
  split at h
  · simpa using number_append h
  split at h
  · cases h; simp
  split at h
  · cases hb : stringBody start (start + 1) cs with
    | error => rw [hb] at h; cases h
    | ok r => rw [hb] at h; cases h; simp [stringBody_append hb]
  · split at h
    · next hs => cases h; exact (symbol?_append hs).1
    · cases h

theorem first_ne_nil {start : Nat} {c : Char} {cs text rest : List Char} {t : Tok}
    (h : first start c cs = .ok (t, text, rest)) : text ≠ [] := by
  have integer {ws rs : List Char} (hw : ws ≠ [])
      (h : number.integer start ws rs = .ok (t, text, rest)) : text ≠ [] := by
    unfold number.integer at h
    dsimp only at h
    split at h <;> cases h
    exact hw
  unfold first at h
  split at h
  · unfold number at h
    split at h
    · split at h
      · cases h; simp
      · exact integer (by simp) h
    · exact integer (by simp) h
  split at h
  · cases h; simp
  split at h
  · cases hb : stringBody start (start + 1) cs with
    | error => rw [hb] at h; cases h
    | ok r => rw [hb] at h; cases h; simp
  · split at h
    · next hs => cases h; exact (symbol?_append hs).2
    · cases h

def scanFrom (start : Nat) (cs : List Char) : Except SyntaxError (List Token) :=
  match cs with
  | [] => .ok []
  | c :: rest =>
    if Unicode.isWhite c then scanFrom (start + c.utf8Size) rest
    else match _h : first start c rest with
      | .error e => .error e
      | .ok (tok, text, rest') => do
        let ts ← scanFrom (start + Text.bytes text) rest'
        return ⟨tok, start, text⟩ :: ts
termination_by cs.length
decreasing_by
  · simp
  · have ha := congrArg List.length (first_append _h)
    have hn := List.length_pos_iff.2 (first_ne_nil _h)
    simp only [List.length_append, List.length_cons] at ha ⊢
    omega

def scan (cs : List Char) : Except SyntaxError (List Token) := scanFrom 0 cs

end Token

end Tether
