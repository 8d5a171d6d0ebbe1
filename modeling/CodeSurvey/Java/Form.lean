import CodeSurvey.Java.Token

namespace CodeSurvey

namespace Java

/-- A tree with the comments that stand before its first token. They belong to whatever node also
holds the token before them. -/
structure Piece where
  lead : List Tree
  tree : Tree
  deriving Inhabited, Repr

namespace Piece

/-- The children of a node in order; the comments before all but the first stand between them. -/
def spread (pieces : List Piece) : List Tree :=
  pieces.flatMap fun piece => piece.lead ++ [piece.tree]

/-- One node over consecutive pieces. -/
def join (kind : Kind) : List Piece → Option Piece
  | [] => none
  | first :: rest => some ⟨first.lead, .node .none kind (first.tree :: spread rest)⟩

def withRole (role : Role) (piece : Piece) : Piece :=
  { piece with tree := piece.tree.withRole role }

end Piece

def Token.piece (kind : Kind) (token : Token) : Piece :=
  ⟨token.lead, .leaf .none kind token.leaf⟩

/-- What tokens are accepted and what tree they become; `σ` names the constructs of a grammar. Alternatives are
ordered, and the first that matches is taken. -/
inductive Form (σ : Type) where
  /-- a keyword or sign -/
  | word (text : String)
  /-- a keyword that is a node of its own kind -/
  | wordAs (kind : Kind) (text : String)
  /-- signs with nothing between them, as one token -/
  | glued (texts : List String)
  /-- a name -/
  | identifier (kind : Kind)
  /-- a token of this shape -/
  | literal (kind : Kind) (shape : Shape)
  | sym (name : σ)
  | seq (forms : List (Form σ))
  | alt (forms : List (Form σ))
  | opt (form : Form σ)
  | many (form : Form σ)
  | node (kind : Kind) (form : Form σ)
  | playing (role : Role) (form : Form σ)
  /-- matches without taking anything when the form does not match here -/
  | notAhead (form : Form σ)
  /-- matches without taking anything when the form matches here -/
  | ahead (form : Form σ)
  /-- a base, extended by the first step that applies as long as one does -/
  | grow (base : Form σ) (steps : List (Form σ))
  /-- in `grow`: what has grown, if of one of the kinds `on` (any, when empty), becomes with role
  `role` the first child of a node -/
  | step (kind : Kind) (role : Role) (on : List Kind) (form : Form σ)

abbrev Outcome : Type := Option (List Piece × List Token)

/-- Takes the next token when it passes a test. -/
def takeToken (kind : Kind) (test : Token → Bool) : List Token → Outcome
  | token :: rest => if test token then some ([token.piece kind], rest) else none
  | [] => none

/-- Takes adjacent tokens with the given texts; what is returned is their joined text. -/
def takeGlued : List String → List Token → Option (String × List Token)
  | [], tokens => some ("", tokens)
  | text :: texts, token :: rest =>
    if token.isGlued && token.isText text then
      (takeGlued texts rest).map fun (joined, rest) => (text ++ joined, rest)
    else none
  | _ :: _, [] => none

def takeJoined : List String → List Token → Outcome
  | text :: texts, token :: rest =>
    if token.isText text then
      (takeGlued texts rest).map fun (joined, rest) =>
        ([⟨token.lead, .leaf .none .token { token.leaf with text := text ++ joined }⟩], rest)
    else none
  | _, _ => none

/-- What a step makes of the grown piece and the pieces it read. -/
def Piece.extend (kind : Kind) (role : Role) (grown : Piece) (pieces : List Piece) : Piece :=
  ⟨grown.lead, .node .none kind (grown.tree.withRole role :: Piece.spread pieces)⟩

mutual

/-- Matches a form at the front of the tokens. `fuel` bounds the depth of the recursion. -/
def Form.run (grammar : σ → Form σ) : Nat → Form σ → List Token → Outcome
  | 0, _, _ => none
  | fuel + 1, form, tokens =>
    match form with
    | .word text => takeToken .token (·.isText text) tokens
    | .wordAs kind text => takeToken kind (·.isText text) tokens
    | .glued texts => takeJoined texts tokens
    | .identifier kind => takeToken kind (·.isIdentifier) tokens
    | .literal kind shape => takeToken kind (·.shape == shape) tokens
    | .sym name => Form.run grammar fuel (grammar name) tokens
    | .seq forms =>
      forms.foldlM (fun (state : List Piece × List Token) form =>
        (Form.run grammar fuel form state.2).map fun (more, rest) => (state.1 ++ more, rest))
        ([], tokens)
    | .alt forms => forms.findSome? fun form => Form.run grammar fuel form tokens
    | .opt form =>
      match Form.run grammar fuel form tokens with
      | some result => some result
      | none => some ([], tokens)
    | .many form =>
      match Form.run grammar fuel form tokens with
      | some (pieces, rest) =>
        (Form.run grammar fuel (.many form) rest).map fun (more, rest) => (pieces ++ more, rest)
      | none => some ([], tokens)
    | .node kind form =>
      match Form.run grammar fuel form tokens with
      | some (pieces, rest) => (Piece.join kind pieces).map fun piece => ([piece], rest)
      | none => none
    | .playing role form =>
      (Form.run grammar fuel form tokens).map fun (pieces, rest) =>
        (pieces.map (Piece.withRole role), rest)
    | .notAhead form =>
      match Form.run grammar fuel form tokens with
      | some _ => none
      | none => some ([], tokens)
    | .ahead form => (Form.run grammar fuel form tokens).map fun _ => ([], tokens)
    | .grow base steps =>
      match Form.run grammar fuel base tokens with
      | some ([piece], rest) => some (Form.extend grammar fuel steps piece rest)
      | _ => none
    | .step _ _ _ form => Form.run grammar fuel form tokens

/-- Extends a piece by steps until none applies. -/
def Form.extend (grammar : σ → Form σ) : Nat → List (Form σ) → Piece → List Token →
    List Piece × List Token
  | 0, _, grown, tokens => ([grown], tokens)
  | fuel + 1, steps, grown, tokens =>
    let applied := steps.findSome? fun step =>
      match step with
      | .step kind role on form =>
        if on.isEmpty || on.contains grown.tree.kind then
          (Form.run grammar fuel form tokens).map fun (pieces, rest) =>
            (grown.extend kind role pieces, rest)
        else none
      | _ => none
    match applied with
    | some (piece, rest) => Form.extend grammar fuel steps piece rest
    | none => ([grown], tokens)

end

end Java

end CodeSurvey
