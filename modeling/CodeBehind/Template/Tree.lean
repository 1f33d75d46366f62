import CodeBehind.Template.Token
import CodeBehind.Value.Basic

/-!
# Template trees

What a template means, read from its tokens.

A template is a sequence of texts, outputs and assignments. An expression is a name or a literal followed by
filters. An assignment either names an expression or captures everything up to its end tag. The reader looks at
one token at a time and fails at the first one that does not fit; a token that could not be read fails as soon
as the one before it has been taken.

Which filters there are is not the reader's concern: it accepts any name, so that two vocabularies can share
one grammar.

## Main definitions

* `Expr`, `Node`: The trees.
* `Node.ofTokens`: The tree of a sequence of tokens.
-/

namespace CodeBehind

namespace Template

/-- What an output or an assignment evaluates. -/
inductive Expr where
  | constant (value : Value)
  | name (name : String)
  | filtered (inner : Expr) (filter : String) (arguments : List (Option String × Expr))
  deriving Inhabited

/-- A part of a template. -/
inductive Node where
  | plain (text : String)
  | output (expr : Expr)
  | assign (target : String) (expr : Expr)
  | capture (target : String) (body : List Node)
  deriving Inhabited

/-- The token that comes next. -/
def current (tokens : List Token) : Token :=
  tokens.head?.getD .ending

/-- Complain that a rule of templates is broken. -/
def malformed (reason : String) : Except Flaw α :=
  .error (.malformed reason)

/-- Take a token; fails if the next one could not be read. -/
def advance (tokens : List Token) : Except Flaw (List Token) :=
  match tokens.drop 1 with
  | .unreadable flaw :: _ => .error flaw
  | rest => .ok rest

/-- Whether two tokens are the same kind of delimiter, operator or name. -/
def Token.isSame : Token → Token → Bool
  | .closing a, .closing b => a == b
  | .operator a, .operator b => a == b
  | .name a, .name b => a == b
  | .ending, .ending => true
  | _, _ => false

/-- Complain that another token comes next than `wanted` says. -/
def mismatch (wanted : String) (tokens : List Token) : Except Flaw α :=
  match current tokens with
  | .ending => malformed ("unexpected end of template, expected " ++ Text.quoted wanted ++ ".")
  | token => malformed ("expected token " ++ Text.quoted wanted ++ ", got " ++ Text.quoted token.describe)

/-- Take the given token. -/
def expect (wanted : Token) (tokens : List Token) : Except Flaw (List Token) :=
  if (current tokens).isSame wanted then advance tokens else mismatch wanted.describe tokens

/-- Take a name. -/
def expectName (tokens : List Token) : Except Flaw (String × List Token) :=
  match current tokens with
  | .name word => (advance tokens).map fun rest => (word, rest)
  | _ => mismatch "name" tokens

/-- Names separated by dots, as one name. -/
def dottedName : Nat → List Token → Except Flaw (String × List Token)
  | 0, tokens => expectName tokens
  | fuel + 1, tokens => do
    let (word, tokens) ← expectName tokens
    match current tokens with
    | .operator "." => do
      let (more, tokens) ← dottedName fuel (← advance tokens)
      return (word ++ "." ++ more, tokens)
    | _ => return (word, tokens)

/-- String tokens that follow one another, as one text. -/
def adjacentTexts : Nat → List Token → Except Flaw (String × List Token)
  | 0, tokens => .ok ("", tokens)
  | fuel + 1, tokens =>
    match current tokens with
    | .text piece => do
      let (more, tokens) ← adjacentTexts fuel (← advance tokens)
      return (piece ++ more, tokens)
    | _ => .ok ("", tokens)

/-- The literal that a name stands for. -/
def namedConstant? : String → Option Value
  | "true" => some (.truth true)
  | "True" => some (.truth true)
  | "false" => some (.truth false)
  | "False" => some (.truth false)
  | "none" => some .null
  | "None" => some .null
  | _ => none

/-- A name or a literal. -/
def primary (tokens : List Token) : Except Flaw (Expr × List Token) :=
  match current tokens with
  | .name word => do
    let rest ← advance tokens
    match namedConstant? word with
    | some value => return (.constant value, rest)
    | none => return (.name word, rest)
  | .text _ => do
    let (text, rest) ← adjacentTexts (tokens.length + 1) tokens
    return (.constant (.text text), rest)
  | .integer n => (advance tokens).map fun rest => (.constant (.integer n), rest)
  | .real x => (advance tokens).map fun rest => (.constant (.real x), rest)
  | token => malformed ("unexpected " ++ Text.quoted token.describe)

/-- A name or a literal, which may be a negative number. -/
def signedPrimary (tokens : List Token) : Except Flaw (Expr × List Token) :=
  match current tokens with
  | .operator "-" => do
    let rest ← advance tokens
    match current rest with
    | .integer n => return (.constant (.integer (-(n : Int))), ← advance rest)
    | .real x => return (.constant (.real (-x)), ← advance rest)
    | token => malformed ("unexpected " ++ Text.quoted token.describe)
  | _ => primary tokens

mutual

/-- An expression; `fuel` bounds the number of filters and arguments. -/
def expression : Nat → List Token → Except Flaw (Expr × List Token)
  | 0, _ => malformed "unexpected 'end of template'"
  | fuel + 1, tokens => do
    let (inner, tokens) ← signedPrimary tokens
    filters fuel inner tokens

/-- The filters after an expression. -/
def filters : Nat → Expr → List Token → Except Flaw (Expr × List Token)
  | 0, inner, tokens => .ok (inner, tokens)
  | fuel + 1, inner, tokens =>
    match current tokens with
    | .operator "|" => do
      let (name, tokens) ← dottedName tokens.length (← advance tokens)
      match current tokens with
      | .operator "(" => do
        let (given, tokens) ← arguments fuel false (← advance tokens)
        filters fuel (.filtered inner name given) tokens
      | _ => filters fuel (.filtered inner name []) tokens
    | _ => .ok (inner, tokens)

/-- The arguments of a filter after the opening bracket, where `named` says whether one before them had a
    name. -/
def arguments : Nat → Bool → List Token → Except Flaw (List (Option String × Expr) × List Token)
  | 0, _, tokens => .ok ([], tokens)
  | fuel + 1, named, tokens =>
    match tokens with
    | .operator ")" :: _ => return ([], ← advance tokens)
    | .name key :: .operator "=" :: _ => do
      let (value, tokens) ← expression fuel (← advance (← advance tokens))
      let (rest, tokens) ← moreArguments fuel true tokens
      return ((some key, value) :: rest, tokens)
    | _ =>
      if named then malformed "invalid syntax for function call expression"
      else do
        let (value, tokens) ← expression fuel tokens
        let (rest, tokens) ← moreArguments fuel false tokens
        return ((none, value) :: rest, tokens)

/-- What follows an argument: a comma and further ones, or the closing bracket. -/
def moreArguments : Nat → Bool → List Token → Except Flaw (List (Option String × Expr) × List Token)
  | 0, _, tokens => .ok ([], tokens)
  | fuel + 1, named, tokens =>
    match current tokens with
    | .operator ")" => return ([], ← advance tokens)
    | _ => do arguments fuel named (← expect (.operator ",") tokens)

end

/-- The expression of a tag, which must not be missing. -/
def wholeExpression (tokens : List Token) : Except Flaw (Expr × List Token) :=
  let missing : Except Flaw (Expr × List Token) :=
    malformed ("Expected an expression, got " ++ Text.quoted (current tokens).describe)
  match current tokens with
  | .closing _ => missing
  | .operator ")" => missing
  | _ => expression (2 * tokens.length + 2) tokens

/-- The name that an assignment gives. -/
def target (tokens : List Token) : Except Flaw (String × List Token) :=
  match current tokens with
  | .closing _ => malformed ("Expected an expression, got " ++ Text.quoted (current tokens).describe)
  | _ => do
    match ← primary tokens with
    | (.name name, rest) => return (name, rest)
    | _ => malformed "can't assign to 'const'"

/-- What the reader was looking for inside an assignment that captures. -/
def openBlock : String :=
  " Jinja was looking for the following tags: 'endset'. The innermost block that needs to be closed is 'set'."

/-- Complain about a statement that there is none of, inside a capturing assignment or not. -/
def unknownTag (inside : Bool) (word : String) : String :=
  "Encountered unknown tag " ++ Text.quoted word ++ "." ++ (if inside then openBlock else "")

/-- The nodes up to the end of the template or, inside a capturing assignment, up to its end tag, which is
    left as the next token. -/
def nodes : Nat → Bool → List Token → Except Flaw (List Node × List Token)
  | 0, _, _ => .ok ([], [])
  | fuel + 1, inside, tokens =>
    match current tokens with
    | .plain text => do
      let (rest, tokens) ← nodes fuel inside (← advance tokens)
      return (.plain text :: rest, tokens)
    | .opening .print => do
      let (expr, tokens) ← wholeExpression (← advance tokens)
      let (rest, tokens) ← nodes fuel inside (← expect (.closing .print) tokens)
      return (.output expr :: rest, tokens)
    | .opening .statement => do
      let tokens ← advance tokens
      match current tokens with
      | .name word =>
        if inside && word = "endset" then return ([], tokens)
        else if word = "set" then do
          let (name, tokens) ← target (← advance tokens)
          match current tokens with
          | .operator "=" => do
            let (expr, tokens) ← wholeExpression (← advance tokens)
            let (rest, tokens) ← nodes fuel inside (← expect (.closing .statement) tokens)
            return (.assign name expr :: rest, tokens)
          | token => do
            let tokens ← if token.isSame (.operator ":") then advance tokens else pure tokens
            let (body, tokens) ← nodes fuel true (← expect (.closing .statement) tokens)
            if tokens.isEmpty then malformed ("Unexpected end of template." ++ openBlock)
            else do
              let (rest, tokens) ← nodes fuel inside (← expect (.closing .statement) (← advance tokens))
              return (.capture name body :: rest, tokens)
        else if word = "if" || word = "for" then do
          let _ ← wholeExpression (← advance tokens)
          malformed (unknownTag inside word)
        else malformed (unknownTag inside word)
      | _ => malformed "tag name expected"
    | .ending => .ok ([], [])
    | token => malformed ("unexpected " ++ Text.quoted token.describe)

/-- The tree of a sequence of tokens. -/
def Node.ofTokens (tokens : List Token) : Except Flaw (List Node) :=
  match tokens with
  | .unreadable flaw :: _ => .error flaw
  | tokens => (nodes (tokens.length + 1) false tokens).map (·.1)

end Template

end CodeBehind
