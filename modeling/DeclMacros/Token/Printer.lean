import DeclMacros.Token.Basic

/-! # Printing tokens

    `Tokens.text` is the standard form: one space between tokens, none after a joint
    punctuation character.  `Tokens.compact` is the form in which a value is usually
    typed: words are separated by a space, commas and semicolons are followed by one,
    and everything else is packed. -/

set_option autoImplicit false

namespace DeclMacros

/-! ## Standard form -/

mutual

/-- A token in standard form. Braces have inner spaces; an invisible group is its content. -/
def Token.print : Token → String
  | .ident i => i.display
  | .punct c _ _ => String.singleton c
  | .literal text _ => text
  | .group .parenthesis content _ => "(" ++ Tokens.text content ++ ")"
  | .group .bracket content _ => "[" ++ Tokens.text content ++ "]"
  | .group .brace [] _ => "\x7b \x7d"
  | .group .brace (t :: ts) _ => "\x7b " ++ Tokens.text (t :: ts) ++ " \x7d"
  | .group .invisible content _ => Tokens.text content

/-- Tokens in standard form. -/
def Tokens.text : List Token → String
  | [] => ""
  | t :: ts =>
    if ts.isEmpty || t.isJoint then t.print ++ Tokens.text ts
    else t.print ++ " " ++ Tokens.text ts

end

/-! ## Compact form -/

mutual

/-- A token in compact form; `afterWord` holds when the token before it was a word. -/
def Token.compact (afterWord : Bool) : Token → String
  | .ident i => if afterWord then " " ++ i.display else i.display
  | .literal text _ => if afterWord then " " ++ text else text
  | .punct c _ _ => if c = ',' || c = ';' then String.ofList [c, ' '] else String.singleton c
  | .group .parenthesis content _ => "(" ++ Tokens.compactFrom false content ++ ")"
  | .group .bracket content _ => "[" ++ Tokens.compactFrom false content ++ "]"
  | .group .brace content _ => "\x7b" ++ Tokens.compactFrom false content ++ "\x7d"
  | .group .invisible content _ => Tokens.compactFrom false content

/-- Tokens in compact form.  A word is an identifier or a literal; after anything else, groups
    included, the next word follows without a space. -/
def Tokens.compactFrom (afterWord : Bool) : List Token → String
  | [] => ""
  | t :: ts =>
    let isWord := match t with
      | .ident _ => true
      | .literal _ _ => true
      | _ => false
    t.compact afterWord ++ Tokens.compactFrom isWord ts

end

/-- Tokens in compact form. -/
def Tokens.compact (ts : Tokens) : String :=
  Tokens.compactFrom false ts

end DeclMacros
