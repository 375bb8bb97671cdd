import Calculator.Proofs.Expression.Recall
import Mathlib.Data.List.Induction

/-!
# Expressions over whole histories

An expression keeps what it knows in lists, and it hands out lists. Lists lie in the cells of a
memory, where those who hold them may change them. Each list that is handed out is a copy in a cell
of its own: no holder can reach the lists in which an expression keeps what it knows, so an
expression in memory behaves like one that has no memory at all.

A `Session` is an expression in memory together with the settings in force. Its history is made of
requests, of changes of lists that were handed out, and of changes of the settings, in any order.

## Main definitions

* `Session`, `Session.expression`: an expression in memory, and what is read from its cells.
* `Action`, `Session.perform`, `Session.after`: what may happen, one thing and a history.
* `Session.replies`: the replies over a history.
* `Memory.Holds`: a cell holds what is known, and no holder of a list can reach it.
* `Session.Represents`, `Session.WellFormed`: the invariant of the memory.
* `Action.reply`, `Action.effect`, `replies`: the same history without a memory.
* `Request.ofText`: the answer for a text.

## Main results

* `Session.WellFormed.perform_eq`: one action, as if there were no memory.
* `Session.WellFormed.perform`, `Session.WellFormed.after`: the invariant by step and by run.
* `Session.WellFormed.replies_eq`: a history has the replies of an expression without memory.
* `Session.WellFormed.exists_origin`: where the known tokens come from.
* `Session.remembers`: **what an expression remembers**, after every history.
-/

namespace Calculator

namespace Expression

/-! ### Expressions in memory -/

/-- Lists by their cells. -/
abbrev Memory := List (List Token)

/-- Keep what is known: in its cell, if it has one, and in a new cell otherwise. -/
def Memory.keep (memory : Memory) : Option Nat → Option (List Token) → Option Nat × Memory
  | none, some list => (some memory.length, memory ++ [list])
  | cell, _ => (cell, memory)

/-- An expression in memory, with the settings in force. -/
structure Session where
  /-- The text. -/
  source : String
  /-- The settings. -/
  settings : Settings
  /-- The cell of the known tokens. -/
  tokenCell : Option Nat := none
  /-- The cell of the known tokens in postfix order. -/
  postfixCell : Option Nat := none
  /-- The lists. -/
  memory : Memory := []
  /-- The cells of the lists that were handed out, in order. -/
  given : List Nat := []

/-- What may happen in a session. -/
inductive Action where
  /-- The expression is asked for something. -/
  | ask (request : Request)
  /-- Somebody puts other tokens into a list that was handed out. -/
  | rewrite (number : Nat) (contents : List Token)
  /-- The settings change. -/
  | configure (settings : Settings)

namespace Session

/-- The expression that is read from the cells. -/
def expression (session : Session) : Expression where
  source := session.source
  tokenCache := session.tokenCell.bind (session.memory[·]?)
  postfixCache := session.postfixCell.bind (session.memory[·]?)

/-- The text of the expression is that of the session. -/
@[simp]
theorem source_expression (session : Session) : session.expression.source = session.source := rfl

/-- Keep what an expression knows after a request. -/
def settle (session : Session) (after : Expression) : Session :=
  let tokens := session.memory.keep session.tokenCell after.tokenCache
  let listing := tokens.2.keep session.postfixCell after.postfixCache
  { session with
    source := after.source
    tokenCell := tokens.1
    postfixCell := listing.1
    memory := listing.2 }

/-- Hand out a list: a copy of it in a new cell. -/
def give (session : Session) : Reply → Session
  | .listed (.ok list) =>
    { session with
      memory := session.memory ++ [list]
      given := session.given ++ [session.memory.length] }
  | _ => session

/-- Put other tokens into one of the lists that were handed out. -/
def rewrite (session : Session) (number : Nat) (contents : List Token) : Session :=
  match session.given[number]? with
  | some cell => { session with memory := session.memory.set cell contents }
  | none => session

/-- What happens, and the session afterwards. -/
def perform (session : Session) : Action → Reply × Session
  | .ask request =>
    let (reply, after) := session.expression.respond session.settings request
    (reply, (session.settle after).give reply)
  | .rewrite number contents => (.done, session.rewrite number contents)
  | .configure settings => (.done, { session with settings })

/-- The session after a history. -/
def after (session : Session) (history : List Action) : Session :=
  history.foldl (fun session action => (session.perform action).2) session

/-- The replies over a history. -/
def replies (session : Session) : List Action → List Reply
  | [] => []
  | action :: rest => (session.perform action).1 :: replies (session.perform action).2 rest

/-- A history that ends with an action. -/
theorem after_concat (session : Session) (history : List Action) (action : Action) :
    session.after (history ++ [action]) = ((session.after history).perform action).2 := by
  rw [after, List.foldl_append]
  rfl

/-- A history in two parts. -/
theorem after_append (session : Session) (history later : List Action) :
    session.after (history ++ later) = (session.after history).after later :=
  List.foldl_append

end Session

/-! ### Cells -/

namespace Memory

variable {memory : Memory} {given : List Nat} {cell : Option Nat} {known : Option (List Token)}

/-- A cell, if there is one, holds what is known, and nobody else holds the cell. -/
structure Holds (memory : Memory) (given : List Nat) (cell : Option Nat)
    (known : Option (List Token)) : Prop where
  /-- What is read from the cell. -/
  read : cell.bind (memory[·]?) = known
  /-- The cell is in use. -/
  lt_length : ∀ n, cell = some n → n < memory.length
  /-- The cell was not handed out. -/
  not_mem : ∀ n, cell = some n → n ∉ given

/-- Without a cell nothing is known. -/
theorem holds_none (memory : Memory) (given : List Nat) : memory.Holds given none none where
  read := rfl
  lt_length := by simp
  not_mem := by simp

namespace Holds

variable (h : memory.Holds given cell known)

include h

/-- New cells change nothing. -/
theorem append (more : Memory) : Holds (memory ++ more) given cell known where
  read := by
    rw [← h.read]
    cases cell with
    | none => rfl
    | some n => exact List.getElem?_append_left (h.lt_length n rfl)
  lt_length := by
    intro n hn
    have hlt := h.lt_length n hn
    rw [List.length_append]
    omega
  not_mem := h.not_mem

/-- A list in a new cell can be handed out. -/
theorem give (list : List Token) :
    Holds (memory ++ [list]) (given ++ [memory.length]) cell known where
  read := (h.append [list]).read
  lt_length := (h.append [list]).lt_length
  not_mem := by
    intro n hn hmem
    have hlt := h.lt_length n hn
    rcases List.mem_append.mp hmem with hgiven | hnew
    · exact h.not_mem n hn hgiven
    · obtain rfl : n = memory.length := by simpa using hnew
      omega

/-- A list that was handed out can be changed. -/
theorem set {other : Nat} (hother : other ∈ given) (contents : List Token) :
    Holds (memory.set other contents) given cell known where
  read := by
    rw [← h.read]
    cases cell with
    | none => rfl
    | some n =>
        have hne : other ≠ n := by
          rintro rfl
          exact h.not_mem other rfl hother
        exact List.getElem?_set_ne hne
  lt_length := by
    intro n hn
    rw [List.length_set]
    exact h.lt_length n hn
  not_mem := h.not_mem

/-- What becomes known is kept, and what was known stays. -/
theorem keep {later : Option (List Token)} (hgiven : ∀ n ∈ given, n < memory.length)
    (hlater : ∀ list, known = some list → later = some list) :
    Holds (memory.keep cell later).2 given (memory.keep cell later).1 later := by
  cases cell with
  | some n =>
      obtain ⟨list, hlist⟩ : ∃ list, memory[n]? = some list :=
        ⟨_, List.getElem?_eq_getElem (h.lt_length n rfl)⟩
      obtain rfl : later = some list := hlater list (h.read.symm.trans hlist)
      exact ⟨hlist, h.lt_length, h.not_mem⟩
  | none =>
      cases later with
      | none => exact holds_none memory given
      | some list =>
          refine ⟨by simp [Memory.keep], ?_, ?_⟩
          · intro n hn
            obtain rfl : memory.length = n := Option.some.inj hn
            simp [Memory.keep]
          · intro n hn hmem
            obtain rfl : memory.length = n := Option.some.inj hn
            exact absurd (hgiven _ hmem) (lt_irrefl _)

end Holds

/-- To keep something leaves the cells in use as they are. -/
theorem exists_append_of_keep (memory : Memory) (cell : Option Nat) (known : Option (List Token)) :
    ∃ more, (memory.keep cell known).2 = memory ++ more := by
  have hkept : ∃ more, memory = memory ++ more := ⟨[], (List.append_nil memory).symm⟩
  cases cell with
  | some n => exact hkept
  | none =>
      cases known with
      | none => exact hkept
      | some list => exact ⟨[list], rfl⟩

end Memory

/-! ### What a session stands for -/

namespace Session

/-- A session stands for an expression: it has the text, and it holds what the expression knows in
cells that nobody else holds. -/
structure Represents (session : Session) (expression : Expression) : Prop where
  /-- The text. -/
  source : session.source = expression.source
  /-- The tokens. -/
  tokens : session.memory.Holds session.given session.tokenCell expression.tokenCache
  /-- The tokens in postfix order. -/
  listing : session.memory.Holds session.given session.postfixCell expression.postfixCache
  /-- The lists that were handed out lie in cells that are in use. -/
  given_lt : ∀ n ∈ session.given, n < session.memory.length

variable {session : Session} {expression : Expression}

namespace Represents

/-- A session stands for the expression that is read from its cells. -/
theorem expression_eq (h : session.Represents expression) : session.expression = expression := by
  rw [Session.expression, h.source, h.tokens.read, h.listing.read]

/-- What is known after a request is kept. -/
theorem settle (h : session.Represents expression) {after : Expression}
    (hkeeps : expression.Keeps after) : (session.settle after).Represents after := by
  have htokens := h.tokens.keep h.given_lt hkeeps.tokens
  obtain ⟨more, hmore⟩ := session.memory.exists_append_of_keep session.tokenCell after.tokenCache
  have hlisting : Memory.Holds (session.memory.keep session.tokenCell after.tokenCache).2
      session.given session.postfixCell expression.postfixCache := by
    rw [hmore]
    exact h.listing.append more
  have hgiven : ∀ n ∈ session.given,
      n < (session.memory.keep session.tokenCell after.tokenCache).2.length := by
    intro n hn
    have hlt := h.given_lt n hn
    rw [hmore, List.length_append]
    omega
  obtain ⟨more', hmore'⟩ := Memory.exists_append_of_keep
    (session.memory.keep session.tokenCell after.tokenCache).2 session.postfixCell
    after.postfixCache
  refine ⟨rfl, ?_, hlisting.keep hgiven hkeeps.listing, ?_⟩
  · show Memory.Holds (Memory.keep _ _ _).2 _ _ _
    rw [hmore']
    exact htokens.append more'
  · intro n hn
    have hlt := hgiven n hn
    show n < (Memory.keep _ _ _).2.length
    rw [hmore', List.length_append]
    omega

/-- A list is handed out as a copy. -/
theorem give (h : session.Represents expression) (reply : Reply) :
    (session.give reply).Represents expression := by
  cases reply with
  | listed result =>
      cases result with
      | error fault => exact h
      | ok list =>
          refine ⟨h.source, h.tokens.give list, h.listing.give list, ?_⟩
          intro n hn
          rw [Session.give, List.length_append]
          rcases List.mem_append.mp hn with hold | hnew
          · have hlt := h.given_lt n hold
            omega
          · obtain rfl : n = session.memory.length := by simpa using hnew
            simp
  | written result | valued result | decided answer | done => exact h

/-- A list that was handed out is changed. -/
theorem rewrite (h : session.Represents expression) (number : Nat) (contents : List Token) :
    (session.rewrite number contents).Represents expression := by
  rw [Session.rewrite]
  split
  · next cell hcell =>
    have hmem : cell ∈ session.given := List.mem_of_getElem? hcell
    refine ⟨h.source, h.tokens.set hmem contents, h.listing.set hmem contents, ?_⟩
    intro n hn
    rw [List.length_set]
    exact h.given_lt n hn
  · exact h

end Represents

end Session

/-! ### Actions without memory -/

namespace Action

variable (expression : Expression) (settings : Settings)

/-- The reply of an expression that has its lists to itself. -/
def reply : Action → Reply
  | .ask request => request.answer (expression.tokensAtHand settings) expression.source
  | _ => .done

/-- The expression after an action if it has its lists to itself. -/
def effect : Action → Expression
  | .ask request => expression.afterwards settings request
  | _ => expression

/-- The settings after an action. -/
def settingsAfter : Action → Settings
  | .configure later => later
  | _ => settings

variable {expression}

/-- Every action leaves an expression coherent. -/
theorem coherent_effect (h : expression.Coherent) (action : Action) :
    (action.effect expression settings).Coherent := by
  cases action with
  | ask request => exact h.afterwards settings request
  | rewrite number contents | configure later => exact h

/-- What is known stays through every action. -/
theorem keeps_effect (h : expression.Coherent) (action : Action) :
    expression.Keeps (action.effect expression settings) := by
  cases action with
  | ask request => exact keeps_afterwards h settings request
  | rewrite number contents | configure later => exact ⟨fun _ h => h, fun _ h => h⟩

/-- Tokens that are known after an action were known before, or they are those of the text. -/
theorem tokens_of_effect {settings : Settings} {action : Action} {tokens : List Token}
    (hnone : expression.tokenCache = none)
    (h : (action.effect expression settings).tokenCache = some tokens) :
    tokenize settings expression.source = .ok tokens := by
  cases action with
  | ask request => exact tokens_of_afterwards hnone h
  | rewrite number contents | configure later =>
      have hsome : expression.tokenCache = some tokens := h
      simp [hnone] at hsome

end Action

/-- The replies over a history of an expression that has its lists to itself. -/
def replies (expression : Expression) (settings : Settings) : List Action → List Reply
  | [] => []
  | action :: rest =>
    action.reply expression settings ::
      replies (action.effect expression settings) (action.settingsAfter settings) rest

/-! ### Steps and histories -/

namespace Session

/-- The invariant: what the expression knows lies in cells that nobody else holds, and the postfix
form that it knows is that of its tokens. -/
structure WellFormed (session : Session) : Prop where
  /-- The session stands for the expression that is read from its cells. -/
  represents : session.Represents session.expression
  /-- The known postfix form is that of the known tokens. -/
  coherent : session.expression.Coherent

/-- A session in which nothing is known yet. -/
def start (source : String) (settings : Settings) : Session := { source, settings }

/-- Nothing is known and nothing was handed out at first. -/
theorem wellFormed_start (source : String) (settings : Settings) :
    (start source settings).WellFormed where
  represents := ⟨rfl, Memory.holds_none [] [], Memory.holds_none [] [], by simp [start]⟩
  coherent := by simp [Coherent, expression, start]

namespace WellFormed

variable {session : Session} (h : session.WellFormed)

include h

/-- **One action** is answered as if there were no memory, and the session stands for the expression
that there would be. -/
theorem perform_eq (action : Action) :
    (session.perform action).1 = action.reply session.expression session.settings ∧
      (session.perform action).2.Represents
        (action.effect session.expression session.settings) ∧
      (session.perform action).2.settings = action.settingsAfter session.settings := by
  cases action with
  | ask request =>
      have hkeeps := keeps_afterwards h.coherent session.settings request
      rw [perform, respond_eq h.coherent]
      refine ⟨rfl, (h.represents.settle hkeeps).give _, ?_⟩
      generalize request.answer _ _ = reply
      cases reply with
      | listed result => cases result <;> rfl
      | written result | valued result | decided answer | done => rfl
  | rewrite number contents =>
      refine ⟨rfl, h.represents.rewrite number contents, ?_⟩
      rw [perform, Session.rewrite]
      split <;> rfl
  | configure later =>
      exact ⟨rfl, ⟨h.represents.source, h.represents.tokens, h.represents.listing,
        h.represents.given_lt⟩, rfl⟩

/-- The reply to an action. -/
theorem reply_perform (action : Action) :
    (session.perform action).1 = action.reply session.expression session.settings :=
  (h.perform_eq action).1

/-- The expression after an action. -/
theorem expression_perform (action : Action) :
    (session.perform action).2.expression =
      action.effect session.expression session.settings :=
  (h.perform_eq action).2.1.expression_eq

/-- The settings after an action. -/
theorem settings_perform (action : Action) :
    (session.perform action).2.settings = action.settingsAfter session.settings :=
  (h.perform_eq action).2.2

/-- Every action keeps the invariant. -/
theorem perform (action : Action) : (session.perform action).2.WellFormed := by
  obtain ⟨-, hrepresents, -⟩ := h.perform_eq action
  have hexpression := h.expression_perform action
  rw [← hexpression] at hrepresents
  refine ⟨hrepresents, ?_⟩
  rw [hexpression]
  exact Action.coherent_effect session.settings h.coherent action

/-- The invariant holds after every history. -/
theorem after (history : List Action) : (session.after history).WellFormed := by
  induction history generalizing session with
  | nil => exact h
  | cons action rest ih => exact ih (h.perform action)

/-- **A history has the replies of an expression that has its lists to itself.** -/
theorem replies_eq (history : List Action) :
    session.replies history = session.expression.replies session.settings history := by
  induction history generalizing session with
  | nil => rfl
  | cons action rest ih =>
      rw [Session.replies, Expression.replies, h.reply_perform, ih (h.perform action),
        h.expression_perform, h.settings_perform]

/-- To change a list that was handed out makes no difference to any later reply. -/
theorem replies_rewrite (number : Nat) (contents : List Token) (later : List Action) :
    (session.perform (.rewrite number contents)).2.replies later = session.replies later := by
  rw [(h.perform _).replies_eq, h.replies_eq, h.expression_perform, h.settings_perform]
  rfl

/-- What is known stays through every history. -/
theorem keeps_after (history : List Action) :
    session.expression.Keeps (session.after history).expression := by
  induction history generalizing session with
  | nil => exact ⟨fun _ h => h, fun _ h => h⟩
  | cons action rest ih =>
      have hstep := Action.keeps_effect session.settings h.coherent action
      rw [← h.expression_perform] at hstep
      have hrest := ih (h.perform action)
      exact ⟨fun tokens htokens => hrest.tokens tokens (hstep.tokens tokens htokens),
        fun listing hlisting => hrest.listing listing (hstep.listing listing hlisting)⟩

end WellFormed

/-! ### Where the tokens come from -/

/-- Known tokens that were not known at first were found at some action, in the text and under the
settings of that moment. -/
theorem WellFormed.exists_origin {session : Session} (h : session.WellFormed)
    (hnone : session.expression.tokenCache = none) {history : List Action} {tokens : List Token}
    (htokens : (session.after history).expression.tokenCache = some tokens) :
    ∃ earlier action later, history = earlier ++ action :: later ∧
      (session.after earlier).expression.tokenCache = none ∧
      tokenize (session.after earlier).settings (session.after earlier).source = .ok tokens ∧
      (session.after (earlier ++ [action])).expression.tokenCache = some tokens := by
  induction history using List.reverseRecOn with
  | nil =>
      have hsome : session.expression.tokenCache = some tokens := htokens
      simp [hnone] at hsome
  | append_singleton history action ih =>
      have hbefore := h.after history
      cases hknown : (session.after history).expression.tokenCache with
      | some known =>
          have hkept := (hbefore.keeps_after [action]).tokens known hknown
          rw [← after_append, htokens] at hkept
          obtain rfl : tokens = known := Option.some.inj hkept
          obtain ⟨earlier, first, later, hsplit, horigin⟩ := ih hknown
          exact ⟨earlier, first, later ++ [action], by simp [hsplit], horigin⟩
      | none =>
          refine ⟨history, action, [], rfl, hknown, ?_, htokens⟩
          rw [after_concat, hbefore.expression_perform] at htokens
          have hfound := Action.tokens_of_effect hknown htokens
          rwa [source_expression] at hfound

end Session

/-! ### Histories with one text and one configuration -/

/-- The answer for a text, by what the library makes of it. -/
def Request.ofText (settings : Settings) (source : String) : Request → Reply
  | .tokens => .listed (tokenize settings source)
  | .postfixTokens => .listed (listingOf settings source)
  | .postfixText => .written (toPostfixText settings source).outcome
  | .value => .valued (Calculator.evaluate settings source).outcome
  | .isEmpty => .decided (Text.isBlankText source)
  | .replaceSource _ => .done

/-- The answer from the tokens of a text is that for the text. -/
theorem Request.answer_tokenize (request : Request) (settings : Settings) (source : String) :
    request.answer (tokenize settings source) source = request.ofText settings source := by
  cases request with
  | postfixText =>
      rw [ofText, toPostfixText_outcome]
      rfl
  | value =>
      rw [ofText, evaluate_outcome]
      rfl
  | tokens | postfixTokens | isEmpty | replaceSource source => rfl

/-- An action that neither replaces the text nor changes the settings. -/
def Action.IsSteady : Action → Prop
  | .ask (.replaceSource _) => False
  | .configure _ => False
  | _ => True

/-- A steady action leaves the text and the settings as they are. -/
theorem Action.IsSteady.effect_eq {action : Action} (h : action.IsSteady) (expression : Expression)
    (settings : Settings) : (action.effect expression settings).source = expression.source ∧
      action.settingsAfter settings = settings := by
  cases action with
  | ask request =>
      refine ⟨?_, rfl⟩
      cases request with
      | replaceSource source => exact h.elim
      | tokens | postfixTokens | isEmpty => rfl
      | postfixText | value =>
          rw [effect, afterwards]
          split <;> rfl
  | rewrite number contents => exact ⟨rfl, rfl⟩
  | configure later => exact h.elim

namespace Session

/-- A steady history leaves the text and the settings as they are. -/
theorem WellFormed.steady_after {session : Session} (h : session.WellFormed) {history : List Action}
    (hsteady : ∀ action ∈ history, action.IsSteady) :
    (session.after history).source = session.source ∧
      (session.after history).settings = session.settings := by
  induction history generalizing session with
  | nil => exact ⟨rfl, rfl⟩
  | cons action rest ih =>
      obtain ⟨haction, hrest⟩ := List.forall_mem_cons.mp hsteady
      obtain ⟨hsource, hsettings⟩ := ih (h.perform action) hrest
      obtain ⟨hsource', hsettings'⟩ := haction.effect_eq session.expression session.settings
      rw [← h.expression_perform, source_expression, source_expression] at hsource'
      rw [← h.settings_perform] at hsettings'
      exact ⟨hsource.trans hsource', hsettings.trans hsettings'⟩

/-- After a steady history the tokens at hand are still those of the text. -/
theorem WellFormed.tokensAtHand_after {session : Session} (h : session.WellFormed)
    (hnone : session.expression.tokenCache = none) {history : List Action}
    (hsteady : ∀ action ∈ history, action.IsSteady) :
    (session.after history).expression.tokensAtHand (session.after history).settings =
      tokenize session.settings session.source := by
  cases hknown : (session.after history).expression.tokenCache with
  | none =>
      obtain ⟨hsource, hsettings⟩ := h.steady_after hsteady
      rw [tokensAtHand_of_none hknown, source_expression, hsource, hsettings]
  | some tokens =>
      obtain ⟨earlier, action, later, hsplit, -, hfound, -⟩ := h.exists_origin hnone hknown
      have hearlier : ∀ action ∈ earlier, action.IsSteady := by
        intro action haction
        refine hsteady action ?_
        rw [hsplit]
        exact List.mem_append_left _ haction
      obtain ⟨hsource, hsettings⟩ := h.steady_after hearlier
      rw [hsource, hsettings] at hfound
      rw [tokensAtHand_of_some hknown, hfound]

/-! ### The main result -/

/-- **What an expression remembers**, after every history of requests, of changes of lists that were
handed out, and of changes of the text and of the settings.

* What is known stays known. The tokens are those of the text that was held, under the settings that
  were in force, at the action that found them, and none were known before it.
* The known postfix form is that of the known tokens.
* A request that fails stores nothing, or all of the tokens with their whole postfix form, if they
  have one.
* To change a list that was handed out makes no difference to any later reply.
* Every reply is made from the known tokens, or from those of the text as it is while none are
  known; apart from this the text decides no more than whether it is blank.
* As long as neither the text nor the settings have changed, every reply, be it an answer or a
  failure, is the one for the text. -/
theorem remembers (source : String) (settings : Settings) (history : List Action) :
    let session := (start source settings).after history
    (∀ later, session.expression.Keeps (session.after later).expression) ∧
    (∀ tokens, session.expression.tokenCache = some tokens →
      ∃ earlier action later, history = earlier ++ action :: later ∧
        let before := (start source settings).after earlier
        before.expression.tokenCache = none ∧
          tokenize before.settings before.source = .ok tokens ∧
          (before.perform action).2.expression.tokenCache = some tokens) ∧
    (∀ listing, session.expression.postfixCache = some listing →
      ∃ tokens, session.expression.tokenCache = some tokens ∧ toPostfix tokens = .ok listing) ∧
    (∀ request fault, (session.perform (.ask request)).1.fault? = some fault →
      (session.perform (.ask request)).2.expression = session.expression ∨
        ∃ tokens, session.expression.tokensAtHand session.settings = .ok tokens ∧
          (session.perform (.ask request)).2.expression =
            { session.expression with
              tokenCache := some tokens, postfixCache := (toPostfix tokens).toOption }) ∧
    (∀ number contents later,
      (session.perform (.rewrite number contents)).2.replies later = session.replies later) ∧
    (∀ request, (session.perform (.ask request)).1 =
      request.answer (session.expression.tokensAtHand session.settings) session.source) ∧
    ((∀ action ∈ history, action.IsSteady) →
      ∀ request, (session.perform (.ask request)).1 = request.ofText settings source) := by
  have hstart := wellFormed_start source settings
  have hnone : (start source settings).expression.tokenCache = none := rfl
  have hsession := hstart.after history
  intro session
  refine ⟨hsession.keeps_after, ?_, hsession.coherent, ?_, fun number contents later =>
    hsession.replies_rewrite number contents later, fun request => hsession.reply_perform _, ?_⟩
  · intro tokens htokens
    obtain ⟨earlier, action, later, hsplit, hbefore, hfound, hafter⟩ :=
      hstart.exists_origin hnone htokens
    rw [after_concat] at hafter
    exact ⟨earlier, action, later, hsplit, hbefore, hfound, hafter⟩
  · intro request fault hfault
    have hresponse := respond_eq hsession.coherent session.settings request
    have hfailed : (session.expression.respond session.settings request).1.fault? = some fault := by
      rw [hresponse]
      rwa [hsession.reply_perform] at hfault
    have hstored := afterwards_of_fault hsession.coherent hfailed
    rw [hresponse] at hstored
    rw [hsession.expression_perform]
    exact hstored
  · intro hsteady request
    have htokens := hstart.tokensAtHand_after hnone hsteady
    obtain ⟨hsource, -⟩ := hstart.steady_after hsteady
    rw [hsession.reply_perform, Action.reply, htokens, source_expression, hsource]
    exact request.answer_tokenize settings source

/-- The tokens of `1+2` are looked up and handed out, the list is emptied, and the text is replaced:
the postfix form is still that of the tokens. -/
example : (start "1+2" {}).replies [.ask .tokens, .rewrite 0 [], .ask (.replaceSource "3"),
    .ask .postfixText] =
    [.listed (tokenize {} "1+2"), .done, .done, .written (.ok "1 2 +")] := rfl

end Session

end Expression

end Calculator
