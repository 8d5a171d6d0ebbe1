import CodeSurvey.Java.Form
import CodeSurvey.Proofs.Java.Name
import CodeSurvey.Proofs.Java.Tree

namespace CodeSurvey

namespace Java

variable {σ : Type} {grammar : σ → Form σ}

/-- The pieces that a form makes of tokens. Lookahead takes none and makes nothing. -/
inductive Derives (grammar : σ → Form σ) : Form σ → List Token → List Piece → Prop
  | word {text token} (matched : token.isText text) :
      Derives grammar (.word text) [token] [token.piece .token]
  | wordAs {kind text token} (matched : token.isText text) :
      Derives grammar (.wordAs kind text) [token] [token.piece kind]
  | glued {text texts token more joined} (matched : token.isText text)
      (adjacent : takeGlued texts more = some (joined, [])) :
      Derives grammar (.glued (text :: texts)) (token :: more)
        [⟨token.lead, .leaf .none .token { token.leaf with text := text ++ joined }⟩]
  | identifier {kind token} (matched : token.isIdentifier) :
      Derives grammar (.identifier kind) [token] [token.piece kind]
  | literal {kind shape token} (matched : token.shape = shape) :
      Derives grammar (.literal kind shape) [token] [token.piece kind]
  | sym {name taken pieces} (named : Derives grammar (grammar name) taken pieces) :
      Derives grammar (.sym name) taken pieces
  | nil : Derives grammar (.seq []) [] []
  | cons {form forms first second pieces more} (head : Derives grammar form first pieces)
      (tail : Derives grammar (.seq forms) second more) :
      Derives grammar (.seq (form :: forms)) (first ++ second) (pieces ++ more)
  | alt {form forms taken pieces} (member : form ∈ forms) (chosen : Derives grammar form taken pieces) :
      Derives grammar (.alt forms) taken pieces
  | absent {form} : Derives grammar (.opt form) [] []
  | present {form taken pieces} (inner : Derives grammar form taken pieces) :
      Derives grammar (.opt form) taken pieces
  | done {form} : Derives grammar (.many form) [] []
  | again {form first second pieces more} (once : Derives grammar form first pieces)
      (later : Derives grammar (.many form) second more) :
      Derives grammar (.many form) (first ++ second) (pieces ++ more)
  | node {kind form taken pieces piece} (inner : Derives grammar form taken pieces)
      (joined : Piece.join kind pieces = some piece) : Derives grammar (.node kind form) taken [piece]
  | playing {role form taken pieces} (inner : Derives grammar form taken pieces) :
      Derives grammar (.playing role form) taken (pieces.map (Piece.withRole role))
  | notAhead {form} : Derives grammar (.notAhead form) [] []
  | ahead {form} : Derives grammar (.ahead form) [] []
  | base {base steps taken piece} (start : Derives grammar base taken [piece]) :
      Derives grammar (.grow base steps) taken [piece]
  | grown {base steps kind role on form first second piece pieces}
      (before : Derives grammar (.grow base steps) first [piece])
      (member : .step kind role on form ∈ steps) (step : Derives grammar form second pieces) :
      Derives grammar (.grow base steps) (first ++ second) [piece.extend kind role pieces]
  | step {kind role on form taken pieces} (inner : Derives grammar form taken pieces) :
      Derives grammar (.step kind role on form) taken pieces

theorem Piece.join_eq_some {kind : Kind} {pieces : List Piece} {piece : Piece}
    (joined : join kind pieces = some piece) :
    ∃ first rest, pieces = first :: rest ∧
      piece = ⟨first.lead, .node .none kind (first.tree :: spread rest)⟩ := by
  cases pieces with
  | nil => cases joined
  | cons first rest => exact ⟨first, rest, rfl, (Option.some.inj joined).symm⟩

namespace Derives

variable {taken : List Token} {pieces : List Piece}

theorem of_seq_cons {form : Form σ} {forms : List (Form σ)}
    (derived : Derives grammar (.seq (form :: forms)) taken pieces) :
    ∃ first second here later, taken = first ++ second ∧ pieces = here ++ later ∧
      Derives grammar form first here ∧ Derives grammar (.seq forms) second later := by
  cases derived with
  | cons head tail => exact ⟨_, _, _, _, rfl, rfl, head, tail⟩

theorem of_playing {role : Role} {form : Form σ} (derived : Derives grammar (.playing role form) taken pieces) :
    ∃ inner, pieces = inner.map (Piece.withRole role) ∧ Derives grammar form taken inner := by
  cases derived with
  | playing inner => exact ⟨_, rfl, inner⟩

theorem of_node {kind : Kind} {form : Form σ} (derived : Derives grammar (.node kind form) taken pieces) :
    ∃ piece children, pieces = [piece] ∧ piece.tree = .node .none kind children := by
  cases derived with
  | node _ joined =>
    obtain ⟨first, rest, _, rfl⟩ := Piece.join_eq_some joined
    exact ⟨_, _, rfl, rfl⟩

theorem of_sym {name : σ} (derived : Derives grammar (.sym name) taken pieces) :
    Derives grammar (grammar name) taken pieces := by
  cases derived with
  | sym named => exact named

theorem forall_of_many {form : Form σ} {P : Piece → Prop}
    (each : ∀ taken pieces, Derives grammar form taken pieces → ∀ piece ∈ pieces, P piece)
    (derived : Derives grammar (.many form) taken pieces) : ∀ piece ∈ pieces, P piece := by
  generalize whole : Form.many form = repeated at derived
  induction derived with
  | done => simp
  | again once _ _ ih =>
    cases whole
    exact List.forall_mem_append.mpr ⟨each _ _ once, ih rfl⟩
  | _ => cases whole

theorem of_grow {base : Form σ} {steps : List (Form σ)}
    (derived : Derives grammar (.grow base steps) taken pieces) : ∃ piece, pieces = [piece] := by
  cases derived with
  | base => exact ⟨_, rfl⟩
  | grown => exact ⟨_, rfl⟩

end Derives

/-- An outcome takes tokens off the front and makes of them what the form can make. -/
def Reads (grammar : σ → Form σ) (form : Form σ) (tokens : List Token)
    (outcome : List Piece × List Token) : Prop :=
  ∃ taken, tokens = taken ++ outcome.2 ∧ Derives grammar form taken outcome.1

theorem takeToken_eq_some {kind : Kind} {test : Token → Bool} {tokens : List Token}
    {outcome : List Piece × List Token} (took : takeToken kind test tokens = some outcome) :
    ∃ token rest, tokens = token :: rest ∧ test token ∧ outcome = ([token.piece kind], rest) := by
  cases tokens with
  | nil => cases took
  | cons token rest =>
    obtain ⟨passed, same⟩ := Option.ite_none_right_eq_some.mp took
    cases same
    exact ⟨token, rest, rfl, passed, rfl⟩

theorem Reads.ofToken {form : Form σ} {kind : Kind} {test : Token → Bool} {tokens : List Token}
    {outcome : List Piece × List Token} (took : takeToken kind test tokens = some outcome)
    (single : ∀ token, test token → Derives grammar form [token] [token.piece kind]) :
    Reads grammar form tokens outcome := by
  obtain ⟨token, rest, rfl, passed, rfl⟩ := takeToken_eq_some took
  exact ⟨[token], rfl, single token passed⟩

theorem takeGlued_eq_some {texts : List String} {tokens rest : List Token} {joined : String}
    (took : takeGlued texts tokens = some (joined, rest)) :
    ∃ taken, tokens = taken ++ rest ∧ takeGlued texts taken = some (joined, []) := by
  induction texts generalizing tokens joined with
  | nil =>
    cases took
    exact ⟨[], rfl, rfl⟩
  | cons text texts ih =>
    cases tokens with
    | nil => cases took
    | cons token tokens =>
      obtain ⟨matched, more⟩ := Option.ite_none_right_eq_some.mp took
      obtain ⟨⟨later, rest'⟩, tookLater, same⟩ := Option.map_eq_some_iff.mp more
      cases same
      obtain ⟨taken, rfl, adjacent⟩ := ih tookLater
      refine ⟨token :: taken, rfl, ?_⟩
      rw [takeGlued, if_pos matched, adjacent, Option.map_some]

theorem takeJoined_reads {texts : List String} {tokens : List Token} {outcome : List Piece × List Token}
    (took : takeJoined texts tokens = some outcome) : Reads grammar (.glued texts) tokens outcome := by
  cases texts with
  | nil => cases took
  | cons text texts =>
    cases tokens with
    | nil => cases took
    | cons token tokens =>
      obtain ⟨matched, more⟩ := Option.ite_none_right_eq_some.mp took
      obtain ⟨⟨joined, rest⟩, tookLater, rfl⟩ := Option.map_eq_some_iff.mp more
      obtain ⟨taken, rfl, adjacent⟩ := takeGlued_eq_some tookLater
      exact ⟨token :: taken, rfl, .glued matched adjacent⟩

/-- Running forms one after the other, with what has been read so far, reads their sequence. -/
theorem seq_reads {run : Form σ → List Token → Outcome}
    (sound : ∀ form tokens outcome, run form tokens = some outcome → Reads grammar form tokens outcome)
    (forms : List (Form σ)) (state outcome : List Piece × List Token)
    (ran : forms.foldlM (fun (state : List Piece × List Token) form =>
      (run form state.2).map fun (more, rest) => (state.1 ++ more, rest)) state = some outcome) :
    ∃ taken pieces, state.2 = taken ++ outcome.2 ∧ outcome.1 = state.1 ++ pieces ∧
      Derives grammar (.seq forms) taken pieces := by
  induction forms generalizing state with
  | nil =>
    cases ran
    exact ⟨[], [], rfl, (List.append_nil _).symm, .nil⟩
  | cons form forms ih =>
    rw [List.foldlM_cons] at ran
    obtain ⟨middle, once, later⟩ := Option.bind_eq_some_iff.mp ran
    obtain ⟨⟨more, rest⟩, ranForm, rfl⟩ := Option.map_eq_some_iff.mp once
    obtain ⟨first, front, head⟩ := sound form _ _ ranForm
    obtain ⟨second, pieces, back, total, tail⟩ := ih _ later
    refine ⟨first ++ second, more ++ pieces, ?_, ?_, .cons head tail⟩
    · rw [front, back, List.append_assoc]
    · rw [total, List.append_assoc]

theorem extend_succ_reads {fuel : Nat} {base : Form σ} {steps : List (Form σ)} {grown : Piece}
    {first tokens : List Token}
    (run : ∀ form tokens outcome, Form.run grammar fuel form tokens = some outcome →
      Reads grammar form tokens outcome)
    (extend : ∀ first grown tokens, Derives grammar (.grow base steps) first [grown] →
      ∃ taken, tokens = taken ++ (Form.extend grammar fuel steps grown tokens).2 ∧
        Derives grammar (.grow base steps) (first ++ taken) (Form.extend grammar fuel steps grown tokens).1)
    (before : Derives grammar (.grow base steps) first [grown]) :
    ∃ taken, tokens = taken ++ (Form.extend grammar (fuel + 1) steps grown tokens).2 ∧
      Derives grammar (.grow base steps) (first ++ taken)
        (Form.extend grammar (fuel + 1) steps grown tokens).1 := by
  rw [Form.extend]
  dsimp only
  split
  · next piece rest applied =>
    obtain ⟨step, member, found⟩ := List.exists_of_findSome?_eq_some applied
    split at found
    · next kind role on form =>
      obtain ⟨_, ran⟩ := Option.ite_none_right_eq_some.mp found
      obtain ⟨⟨pieces, rest'⟩, ranForm, same⟩ := Option.map_eq_some_iff.mp ran
      cases same
      obtain ⟨second, rfl, step⟩ := run form _ _ ranForm
      obtain ⟨third, back, derived⟩ := extend _ _ rest' (.grown before member step)
      refine ⟨second ++ third, ?_, ?_⟩
      · rw [List.append_assoc, ← back]
      · rwa [← List.append_assoc]
    · cases found
  · exact ⟨[], rfl, by rwa [List.append_nil]⟩

/-- Whatever a run gives, the form makes it of the tokens that the run took. -/
theorem run_reads (grammar : σ → Form σ) (fuel : Nat) :
    (∀ form tokens outcome, Form.run grammar fuel form tokens = some outcome →
      Reads grammar form tokens outcome) ∧
    ∀ base steps first grown tokens, Derives grammar (.grow base steps) first [grown] →
      ∃ taken, tokens = taken ++ (Form.extend grammar fuel steps grown tokens).2 ∧
        Derives grammar (.grow base steps) (first ++ taken)
          (Form.extend grammar fuel steps grown tokens).1 := by
  induction fuel with
  | zero =>
    refine ⟨fun form tokens outcome ran => ?_, fun base steps first grown tokens before => ?_⟩
    · rw [Form.run] at ran
      cases ran
    · rw [Form.extend]
      exact ⟨[], rfl, by rwa [List.append_nil]⟩
  | succ fuel ih =>
    obtain ⟨run, extend⟩ := ih
    refine ⟨fun form tokens outcome ran => ?_, fun base steps first grown tokens before =>
      extend_succ_reads run (extend base steps) before⟩
    cases form with
    | word text =>
      rw [Form.run] at ran
      exact .ofToken ran fun _ => .word
    | wordAs kind text =>
      rw [Form.run] at ran
      exact .ofToken ran fun _ => .wordAs
    | glued texts =>
      rw [Form.run] at ran
      exact takeJoined_reads ran
    | identifier kind =>
      rw [Form.run] at ran
      exact .ofToken ran fun _ => .identifier
    | literal kind shape =>
      rw [Form.run] at ran
      exact .ofToken ran fun _ same => .literal (beq_iff_eq.mp same)
    | sym name =>
      rw [Form.run] at ran
      obtain ⟨taken, split, named⟩ := run _ _ _ ran
      exact ⟨taken, split, .sym named⟩
    | seq forms =>
      rw [Form.run] at ran
      obtain ⟨taken, pieces, split, same, all⟩ := seq_reads run forms _ _ ran
      refine ⟨taken, split, ?_⟩
      rwa [same]
    | alt forms =>
      rw [Form.run] at ran
      obtain ⟨form, member, ranForm⟩ := List.exists_of_findSome?_eq_some ran
      obtain ⟨taken, split, chosen⟩ := run _ _ _ ranForm
      exact ⟨taken, split, .alt member chosen⟩
    | opt form =>
      rw [Form.run] at ran
      split at ran
      · next ranForm =>
        cases ran
        obtain ⟨taken, split, inner⟩ := run _ _ _ ranForm
        exact ⟨taken, split, .present inner⟩
      · cases ran
        exact ⟨[], rfl, .absent⟩
    | many form =>
      rw [Form.run] at ran
      split at ran
      · next pieces rest ranForm =>
        obtain ⟨⟨more, rest'⟩, ranMany, rfl⟩ := Option.map_eq_some_iff.mp ran
        obtain ⟨first, rfl, once⟩ := run _ _ _ ranForm
        obtain ⟨second, rfl, later⟩ := run _ _ _ ranMany
        exact ⟨first ++ second, (List.append_assoc ..).symm, .again once later⟩
      · cases ran
        exact ⟨[], rfl, .done⟩
    | node kind form =>
      rw [Form.run] at ran
      split at ran
      · next pieces rest ranForm =>
        obtain ⟨piece, joined, rfl⟩ := Option.map_eq_some_iff.mp ran
        obtain ⟨taken, split, inner⟩ := run _ _ _ ranForm
        exact ⟨taken, split, .node inner joined⟩
      · cases ran
    | playing role form =>
      rw [Form.run] at ran
      obtain ⟨⟨pieces, rest⟩, ranForm, rfl⟩ := Option.map_eq_some_iff.mp ran
      obtain ⟨taken, split, inner⟩ := run _ _ _ ranForm
      exact ⟨taken, split, .playing inner⟩
    | notAhead form =>
      rw [Form.run] at ran
      split at ran
      · cases ran
      · cases ran
        exact ⟨[], rfl, .notAhead⟩
    | ahead form =>
      rw [Form.run] at ran
      obtain ⟨_, _, rfl⟩ := Option.map_eq_some_iff.mp ran
      exact ⟨[], rfl, .ahead⟩
    | grow base steps =>
      rw [Form.run] at ran
      split at ran
      · next piece rest ranBase =>
        cases ran
        obtain ⟨first, rfl, start⟩ := run _ _ _ ranBase
        obtain ⟨second, split, grown⟩ := extend base steps first piece rest (.base start)
        refine ⟨first ++ second, ?_, grown⟩
        rw [List.append_assoc, ← split]
      · cases ran
    | step kind role on form =>
      rw [Form.run] at ran
      obtain ⟨taken, split, inner⟩ := run _ _ _ ran
      exact ⟨taken, split, .step inner⟩

/-- Where nodes of a kind come from: a form that makes all of a node, or one that makes what follows the
part from which the node has grown. -/
inductive Production (σ : Type) where
  | whole (kind : Kind) (form : Form σ)
  | step (kind : Kind) (role : Role) (form : Form σ)

mutual

/-- The productions in a form; lookahead makes no nodes. -/
def Form.productions : Form σ → List (Production σ)
  | .word _ | .wordAs _ _ | .glued _ | .identifier _ | .literal _ _ | .sym _ => []
  | .notAhead _ | .ahead _ => []
  | .opt form | .many form | .playing _ form => productions form
  | .seq forms | .alt forms => productionsOf forms
  | .node kind form => .whole kind form :: productions form
  | .grow base steps => productions base ++ productionsOf steps
  | .step kind role _ form => .step kind role form :: productions form

def Form.productionsOf : List (Form σ) → List (Production σ)
  | [] => []
  | form :: forms => productions form ++ productionsOf forms

end

theorem Form.mem_productionsOf {forms : List (Form σ)} {form : Form σ} {production : Production σ}
    (member : form ∈ forms) (inside : production ∈ form.productions) :
    production ∈ productionsOf forms := by
  induction forms with
  | nil => cases member
  | cons other forms ih =>
    rw [productionsOf, List.mem_append]
    rcases List.mem_cons.mp member with rfl | later
    · exact Or.inl inside
    · exact Or.inr (ih later)

/-- The children that a production gives to a node, out of tokens of a file. -/
inductive Makes (grammar : σ → Form σ) : Production σ → Kind → List Tree → Prop
  | whole {kind form taken first rest} (inner : Derives grammar form taken (first :: rest))
      (sound : ∀ token ∈ taken, token.Sound) :
      Makes grammar (.whole kind form) kind (first.tree :: Piece.spread rest)
  | step {kind role form taken grown pieces} (inner : Derives grammar form taken pieces)
      (sound : ∀ token ∈ taken, token.Sound) :
      Makes grammar (.step kind role form) kind (grown :: Piece.spread pieces)

/-- Every node comes from a production of some sort. -/
def Tree.Follows (grammar : σ → Form σ) (sort : Production σ → Prop) (tree : Tree) : Prop :=
  ∀ role kind children, .node role kind children ∈ tree.preorder →
    ∃ production, sort production ∧ Makes grammar production kind children

namespace Tree.Follows

variable {sort : Production σ → Prop}

theorem leaf (role : Role) (kind : Kind) (content : Leaf) :
    (Tree.leaf role kind content).Follows grammar sort := by
  intro _ _ _ inside
  cases List.mem_singleton.mp inside

theorem node {role : Role} {kind : Kind} {children : List Tree} {production : Production σ}
    (ofSort : sort production) (makes : Makes grammar production kind children)
    (below : ∀ child ∈ children, child.Follows grammar sort) :
    (Tree.node role kind children).Follows grammar sort := by
  intro _ _ _ inside
  rcases mem_preorder_node.mp inside with same | ⟨child, member, within⟩
  · cases same
    exact ⟨production, ofSort, makes⟩
  · exact below child member _ _ _ within

theorem withRole {tree : Tree} (follows : tree.Follows grammar sort) (role : Role) :
    (tree.withRole role).Follows grammar sort := by
  cases tree with
  | leaf => exact leaf _ _ _
  | node oldRole kind children =>
    intro _ _ _ inside
    rcases mem_preorder_node.mp inside with same | within
    · cases same
      exact follows _ _ _ (self_mem_preorder _)
    · exact follows _ _ _ (mem_preorder_node.mpr (Or.inr within))

end Tree.Follows

/-- A piece with nothing but comments before it and with all its nodes from productions of a sort. -/
structure Piece.Sound (grammar : σ → Form σ) (sort : Production σ → Prop) (piece : Piece) : Prop where
  lead : ∀ tree ∈ piece.lead, tree.IsComment
  follows : piece.tree.Follows grammar sort

theorem Tree.IsComment.follows {sort : Production σ → Prop} {tree : Tree} (comment : tree.IsComment) :
    tree.Follows grammar sort := by
  obtain ⟨kind, content, _, rfl⟩ := comment
  exact .leaf _ _ _

theorem follows_of_mem_spread {sort : Production σ → Prop} {pieces : List Piece}
    (sound : ∀ piece ∈ pieces, piece.Sound grammar sort) {tree : Tree} (member : tree ∈ Piece.spread pieces) :
    tree.Follows grammar sort := by
  obtain ⟨piece, inside, place⟩ := List.mem_flatMap.mp member
  rcases List.mem_append.mp place with before | last
  · exact ((sound piece inside).lead tree before).follows
  · cases List.mem_singleton.mp last
    exact (sound piece inside).follows

theorem Piece.Sound.ofToken {sort : Production σ → Prop} {token : Token} (sound : token.Sound) {kind : Kind}
    {content : Leaf} :
    ∀ piece ∈ [(⟨token.lead, .leaf .none kind content⟩ : Piece)], piece.Sound grammar sort :=
  List.forall_mem_singleton.mpr ⟨sound.lead, .leaf _ _ _⟩

/-- The productions that occur in a form and in what it refers to account for all that it makes. -/
theorem Derives.sound {sort : Production σ → Prop}
    (closed : ∀ name, ∀ production ∈ (grammar name).productions, sort production)
    {form : Form σ} {taken : List Token} {pieces : List Piece} (derived : Derives grammar form taken pieces)
    (tokens : ∀ token ∈ taken, token.Sound) (here : ∀ production ∈ form.productions, sort production) :
    ∀ piece ∈ pieces, piece.Sound grammar sort := by
  induction derived with
  | word => exact .ofToken (tokens _ List.mem_cons_self)
  | wordAs => exact .ofToken (tokens _ List.mem_cons_self)
  | glued => exact .ofToken (tokens _ List.mem_cons_self)
  | identifier => exact .ofToken (tokens _ List.mem_cons_self)
  | literal => exact .ofToken (tokens _ List.mem_cons_self)
  | sym _ ih => exact ih tokens (closed _)
  | nil => simp
  | cons _ _ ihHead ihTail =>
    rw [List.forall_mem_append] at tokens
    rw [Form.productions, Form.productionsOf, List.forall_mem_append] at here
    rw [List.forall_mem_append]
    exact ⟨ihHead tokens.1 here.1, ihTail tokens.2 here.2⟩
  | alt member _ ih =>
    exact ih tokens fun production inside => here production (Form.mem_productionsOf member inside)
  | absent => simp
  | present _ ih => exact ih tokens here
  | done => simp
  | again _ _ ihOnce ihLater =>
    rw [List.forall_mem_append] at tokens
    rw [List.forall_mem_append]
    exact ⟨ihOnce tokens.1 here, ihLater tokens.2 here⟩
  | node inner joined ih =>
    rw [Form.productions, List.forall_mem_cons] at here
    obtain ⟨first, rest, rfl, rfl⟩ := Piece.join_eq_some joined
    obtain ⟨soundFirst, soundRest⟩ := List.forall_mem_cons.mp (ih tokens here.2)
    rw [List.forall_mem_singleton]
    refine ⟨soundFirst.lead, .node here.1 (.whole inner tokens) ?_⟩
    exact List.forall_mem_cons.mpr ⟨soundFirst.follows, fun tree => follows_of_mem_spread soundRest⟩
  | playing _ ih =>
    intro piece member
    obtain ⟨plain, inside, rfl⟩ := List.mem_map.mp member
    have sound := ih tokens here plain inside
    exact ⟨sound.lead, sound.follows.withRole _⟩
  | notAhead => simp
  | ahead => simp
  | base _ ih =>
    rw [Form.productions, List.forall_mem_append] at here
    exact ih tokens here.1
  | grown _ member step ihBefore ihStep =>
    rw [List.forall_mem_append] at tokens
    have within := fun production inside => here production
      (List.mem_append_right _ (Form.mem_productionsOf member inside))
    rw [Form.productions, List.forall_mem_cons] at within
    have soundBefore := List.forall_mem_singleton.mp (ihBefore tokens.1 here)
    have soundStep := ihStep tokens.2 within.2
    rw [List.forall_mem_singleton]
    refine ⟨soundBefore.lead, .node within.1 (.step step tokens.2) ?_⟩
    exact List.forall_mem_cons.mpr
      ⟨soundBefore.follows.withRole _, fun tree => follows_of_mem_spread soundStep⟩
  | step _ ih =>
    rw [Form.productions, List.forall_mem_cons] at here
    exact ih tokens here.2

theorem filter_role_spread {pieces : List Piece} {role : Role} (playing : role ≠ .none)
    (comments : ∀ piece ∈ pieces, ∀ tree ∈ piece.lead, tree.IsComment) :
    (Piece.spread pieces).filter (·.role == role) = (pieces.map (·.tree)).filter (·.role == role) := by
  induction pieces with
  | nil => rfl
  | cons piece pieces ih =>
    obtain ⟨lead, later⟩ := List.forall_mem_cons.mp comments
    have noRole : piece.lead.filter (·.role == role) = [] :=
      filter_role_of_none playing fun tree member => (lead tree member).role_eq_none
    change ((piece.lead ++ [piece.tree]) ++ Piece.spread pieces).filter _ = _
    rw [List.filter_append, List.filter_append, noRole, List.nil_append, ih later, ← List.filter_append]
    rfl

/-- The children of a node in a role are among the trees that its form made. -/
theorem Makes.exists_pieces {kind : Kind} {children : List Tree} {form : Form σ}
    (makes : Makes grammar (.whole kind form) kind children) :
    ∃ taken pieces, Derives grammar form taken pieces ∧ (∀ token ∈ taken, token.Sound) ∧
      ∀ role ≠ Role.none, children.filter (·.role == role) = (pieces.map (·.tree)).filter (·.role == role) := by
  cases makes with
  | @whole _ _ taken first rest inner sound =>
    refine ⟨taken, first :: rest, inner, sound, fun role playing => ?_⟩
    have pieces : ∀ piece ∈ first :: rest, piece.Sound grammar fun _ => True :=
      inner.sound (fun _ _ _ => trivial) sound fun _ _ => trivial
    have comments : ∀ piece ∈ rest, ∀ tree ∈ piece.lead, tree.IsComment := fun piece member =>
      (pieces piece (List.mem_cons_of_mem _ member)).lead
    rw [List.map_cons, List.filter_cons, List.filter_cons, filter_role_spread playing comments]

end Java

end CodeSurvey
