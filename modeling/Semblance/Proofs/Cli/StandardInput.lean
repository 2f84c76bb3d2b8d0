import Semblance.Proofs.Cli.Runs

/-!
# Inputs from the standard input

What a command finds out does not depend on how its inputs are called: the paths are shown, and
nothing else is done with them. So a pattern, a value, a subject or a namespace can be fed through
the standard input in place of its file, and the command finds out the same. A rule set cannot: it
is always looked for in a file, and if there is none of that name, the command fails whatever it is
fed.

Two runs are compared step by step: a relation between their inputs says that the files are the same
and that what is fed is still there as long as its place has not been read.
-/

namespace Semblance.Cli

/-! ## Places of inputs -/

/-- What an input of a command is for. -/
inductive Place where
  | pattern
  | value (index : Nat)
  | rules
  | left
  | right
  | ns
  deriving DecidableEq, Repr

namespace Command

/-- The path that is given for a place. -/
def path? : Command → Place → Option String
  | test pattern _ _, .pattern => some pattern
  | test _ values _, .value index => values[index]?
  | test _ _ ns, .ns => ns
  | score rules _ _ _, .rules => some rules
  | score _ left _ _, .left => some left
  | score _ _ right _, .right => some right
  | score _ _ _ ns, .ns => ns
  | check rules, .rules => some rules
  | _, _ => none

def path (c : Command) (place : Place) : String := (c.path? place).getD ""

/-- The values that are tested. -/
def values : Command → List String
  | test _ values _ => values
  | score .. | check _ => []

/-- Give the standard input for a place. -/
def redirect (place : Place) : Command → Command
  | test pattern values ns =>
      match place with
      | .pattern => test "-" values ns
      | .value index => test pattern (values.set index "-") ns
      | .ns => test pattern values (ns.map fun _ => "-")
      | _ => test pattern values ns
  | score rules left right ns =>
      match place with
      | .rules => score "-" left right ns
      | .left => score rules "-" right ns
      | .right => score rules left "-" ns
      | .ns => score rules left right (ns.map fun _ => "-")
      | _ => score rules left right ns
  | check rules => if place = .rules then check "-" else check rules

theorem path_eq {c : Command} {place : Place} {path : String} (given : c.path? place = some path) :
    c.path place = path := by
  rw [Command.path, given]
  rfl

theorem path?_redirect (c : Command) (place other : Place) :
    (c.redirect place).path? other =
      if other = place then (c.path? other).map fun _ => "-" else c.path? other := by
  cases c with
  | test pattern values ns =>
      cases place <;> cases other <;> simp [redirect, path?]
      rename_i index other
      rw [List.getElem?_set]
      by_cases same : other = index
      · subst same
        by_cases inside : other < values.length <;> simp [inside]
      · rw [if_neg (Ne.symm same), if_neg same]
  | score rules left right ns => cases place <;> cases other <;> simp [redirect, path?]
  | check rules => cases place <;> cases other <;> simp [redirect, path?]

end Command

/-- The same invocation with the standard input for a place. -/
def Invocation.redirect (i : Invocation) (place : Place) : Invocation :=
  { i with command := i.command.redirect place }

/-! ## What a command finds out -/

/-- Why a command has failed, whatever its inputs are called. -/
inductive Fault where
  | unreadable (place : Place)
  | invalidJson (place : Place)
  | namespaceKind (kind : String)
  | pattern (error : Pattern.CompileError)
  | ruleSet (error : RuleSetError)

/-- The failure to read a path, where the hyphen is shown as what it stands for. -/
def Failure.unread (path : String) : Failure :=
  if path = "-" then unreadableStdin else unreadable path

def Fault.shown (c : Command) : Fault → Failure
  | unreadable place => .unread (c.path place)
  | invalidJson place => .invalidJson (c.path place)
  | namespaceKind kind => .namespaceKind (c.path .ns) kind
  | pattern error => .pattern error
  | ruleSet error => .ruleSet error

/-- How far a command has come, whatever its inputs are called. -/
inductive Finding where
  /-- The pattern or the rules could not be loaded. -/
  | unloaded (fault : Fault)
  /-- With a pattern of this kind, a value could not be read. -/
  | untested (kind : String) (fault : Fault)
  | tested (kind : String) (matched : List Bool)
  /-- With so many rules, a subject could not be read. -/
  | unscored (rules : Nat) (fault : Fault)
  | scored (rules : Nat) (x : Execution)
  | listed (set : RuleSet)

namespace Finding

/-- What is printed of a finding, with the paths that the command was given. -/
def shown (i : Invocation) : Finding → Outcome
  | unloaded fault => { failure := some (fault.shown i.command) }
  | untested kind fault =>
      { stderr := notes i.verbose [s!"Compiled pattern {i.command.path .pattern} ({kind})"]
        failure := some (fault.shown i.command) }
  | tested kind matched =>
      { stdout := Verdict.report i.format (List.zipWith Verdict.mk i.command.values matched)
        stderr := notes i.verbose [s!"Compiled pattern {i.command.path .pattern} ({kind})"] }
  | unscored rules fault =>
      { stderr := notes i.verbose [s!"Loaded {rules} rules from {i.command.path .rules}"]
        failure := some (fault.shown i.command) }
  | scored rules x =>
      { stdout :=
          x.report i.format
            ⟨i.command.path .rules, i.command.path .left, i.command.path .right⟩
        stderr := notes i.verbose [s!"Loaded {rules} rules from {i.command.path .rules}",
          s!"{rules - x.details.length} rules skipped on null extractions"] }
  | listed set => { stdout := set.report i.format i.verbose (i.command.path .rules) }

/-- The command has failed. -/
def fails : Finding → Bool
  | unloaded _ | untested .. | unscored .. => true
  | tested .. | scored .. | listed _ => false

theorem isSome_failure_shown (i : Invocation) (finding : Finding) :
    (finding.shown i).failure.isSome = finding.fails := by
  cases finding <;> rfl

end Finding

/-! ## The same steps on two inputs -/

/-- Two steps fail for the same fault, or else they go on with related results and inputs. -/
def Couples {α β : Type} (c c' : Command) (P : Inputs → Inputs → Prop) (x : Reading α)
    (y : Reading β) (R : α → β → Prop) (Q : Inputs → Inputs → Prop) : Prop :=
  ∀ ⦃s t⦄, P s t →
    (∃ fault : Fault, x s = .error (fault.shown c) ∧ y t = .error (fault.shown c')) ∨
      ∃ a b s' t', x s = .ok (a, s') ∧ y t = .ok (b, t') ∧ R a b ∧ Q s' t'

namespace Couples

variable {α β γ δ : Type} {c c' : Command} {P Q S : Inputs → Inputs → Prop} {R : α → β → Prop}
  {T : γ → δ → Prop} {x : Reading α} {y : Reading β}

theorem pure {a : α} {b : β} (related : R a b) :
    Couples c c' P (Pure.pure a) (Pure.pure b) R P :=
  fun s t before => .inr ⟨a, b, s, t, rfl, rfl, related, before⟩

theorem fault (fault : Fault) :
    Couples c c' P (throw (fault.shown c)) (throw (fault.shown c')) R Q :=
  fun _ _ _ => .inl ⟨fault, rfl, rfl⟩

theorem bind {f : α → Reading γ} {g : β → Reading δ} (first : Couples c c' P x y R Q)
    (next : ∀ a b, R a b → Couples c c' Q (f a) (g b) T S) :
    Couples c c' P (x >>= f) (y >>= g) T S := by
  intro s t before
  change (∃ fault : Fault, (x s >>= fun r => f r.1 r.2) = _ ∧ (y t >>= fun r => g r.1 r.2) = _) ∨
    ∃ a b s' t', (x s >>= fun r => f r.1 r.2) = _ ∧ (y t >>= fun r => g r.1 r.2) = _ ∧ _
  rcases first before with ⟨fault, left, right⟩ | ⟨a, b, s', t', left, right, related, between⟩
  · rw [left, right]
    exact .inl ⟨fault, rfl, rfl⟩
  · rw [left, right]
    exact next a b related between

end Couples

/-- The files are the same, and what is fed has not been read if it is still to be. -/
structure Feeds (files : Inputs) (content : Content) (awaited : Prop) (s t : Inputs) : Prop where
  left : s.file = files.file
  right : t.file = files.file
  fed : awaited → t.stdin = content

theorem Feeds.mono {files : Inputs} {content : Content} {p q : Prop} {s t : Inputs}
    (feeds : Feeds files content p s t) (less : q → p) : Feeds files content q s t :=
  ⟨feeds.left, feeds.right, fun awaited => feeds.fed (less awaited)⟩

/-- The inputs of a command are files, and what is in the file for a place is fed. -/
structure IsFed (c : Command) (place : Place) (files : Inputs) (content : Content) : Prop where
  named : ∀ other path, c.path? other = some path → path ≠ "-"
  held : ∀ path, c.path? place = some path → files.file path = content

variable {c : Command} {place other : Place} {files : Inputs} {content : Content}
  {path path' : String} {rest : List Place}

/-- A text is read from a file, or else the file is at fault. -/
theorem readText_file {s : Inputs} (file : s.file = files.file) (given : c.path? other = some path)
    (named : path ≠ "-") : readText path s =
      ((files.file path).map (·, s)).mapError fun _ => (Fault.unreadable other).shown c := by
  rw [readText, if_neg named, file, Fault.shown, Command.path_eq given, Failure.unread,
    if_neg named]
  cases files.file path <;> rfl

/-- A text is read from the standard input, of which nothing is left then, or else the standard
input is at fault. -/
theorem readText_stdin {t : Inputs} (fed : t.stdin = content) (given : c.path? other = some "-") :
    readText "-" t = (content.map (·, { t with stdin := "" })).mapError
      fun _ => (Fault.unreadable other).shown c := by
  rw [readText, if_pos rfl, fed, Fault.shown, Command.path_eq given, Failure.unread, if_pos rfl]
  cases content <;> rfl

/-- A text is read from the standard input for the place that is redirected, and otherwise from the
same file. -/
theorem couples_readText (isFed : IsFed c place files content) (first : other ∉ rest)
    (given : c.path? other = some path) (given' : (c.redirect place).path? other = some path') :
    Couples c (c.redirect place) (Feeds files content (place ∈ other :: rest)) (readText path)
      (readText path') Eq (Feeds files content (place ∈ rest)) := by
  intro s t feeds
  have named := isFed.named other path given
  rw [readText_file feeds.left given named]
  by_cases here : other = place
  · subst here
    have hyphen : path' = "-" := by
      rw [Command.path?_redirect, if_pos rfl, given] at given'
      exact (Option.some.inj given').symm
    subst hyphen
    rw [isFed.held path given, readText_stdin (feeds.fed List.mem_cons_self) given']
    cases content with
    | ok text =>
        -- Nothing is left to be read, but no place that is left is read from there.
        exact .inr ⟨text, text, s, { t with stdin := "" }, rfl, rfl, rfl, feeds.left, feeds.right,
          fun later => absurd later first⟩
    | error reason => exact .inl ⟨.unreadable other, rfl, rfl⟩
  · have same : path' = path := by
      rw [Command.path?_redirect, if_neg here, given] at given'
      exact (Option.some.inj given').symm
    subst same
    rw [readText_file feeds.right given' named]
    cases files.file path' with
    | ok text =>
        exact .inr ⟨text, text, s, t, rfl, rfl, rfl, feeds.mono (List.mem_cons_of_mem _)⟩
    | error reason => exact .inl ⟨.unreadable other, rfl, rfl⟩

theorem couples_readJson (isFed : IsFed c place files content) (first : other ∉ rest)
    (given : c.path? other = some path) (given' : (c.redirect place).path? other = some path') :
    Couples c (c.redirect place) (Feeds files content (place ∈ other :: rest)) (readJson path)
      (readJson path') Eq (Feeds files content (place ∈ rest)) := by
  refine (couples_readText isFed first given given').bind fun text _ same => ?_
  subst same
  cases Json.readValue text with
  | ok value => exact .pure rfl
  | error _ =>
      rw [← Command.path_eq given, ← Command.path_eq given']
      exact .fault (.invalidJson other)

theorem couples_loadNamespace (isFed : IsFed c place files content) (first : .ns ∉ rest)
    {ns ns' : Option String} (given : c.path? .ns = ns)
    (given' : (c.redirect place).path? .ns = ns') :
    Couples c (c.redirect place) (Feeds files content (place ∈ .ns :: rest)) (loadNamespace ns)
      (loadNamespace ns') Eq (Feeds files content (place ∈ rest)) := by
  cases ns with
  | none =>
      rw [Command.path?_redirect, given, Option.map_none, ite_self] at given'
      subst given'
      exact fun s t feeds => .inr ⟨{}, {}, s, t, rfl, rfl, rfl, feeds.mono (List.mem_cons_of_mem _)⟩
  | some path =>
      obtain ⟨path', rfl⟩ : ∃ path', ns' = some path' := by
        rw [Command.path?_redirect, given] at given'
        split at given' <;> exact ⟨_, given'.symm⟩
      refine (couples_readJson isFed first given given').bind fun value _ same => ?_
      subst same
      cases value with
      | object fields => exact .pure rfl
      | _ =>
          rw [← Command.path_eq given, ← Command.path_eq given']
          exact .fault (.namespaceKind _)

theorem couples_loadMatcher (isFed : IsFed c place files content) (rest : List Place)
    (first : .pattern ∉ rest) (later : .ns ∉ .pattern :: rest) {ns ns' : Option String}
    (given : c.path? .pattern = some path) (given' : (c.redirect place).path? .pattern = some path')
    (givenNs : c.path? .ns = ns) (givenNs' : (c.redirect place).path? .ns = ns') :
    Couples c (c.redirect place) (Feeds files content (place ∈ .ns :: .pattern :: rest))
      (loadMatcher path ns) (loadMatcher path' ns') Eq (Feeds files content (place ∈ rest)) := by
  refine (couples_loadNamespace isFed later givenNs givenNs').bind fun fields _ same => ?_
  subst same
  refine (couples_readJson isFed first given given').bind fun value _ same => ?_
  subst same
  cases Pattern.compile (Knowledge.withExpressions fields) (.ofValue value) with
  | ok matcher => exact .pure rfl
  | error error => exact .fault (.pattern error)

/-- The rules are read from the same file, unless they are redirected. -/
theorem couples_loadRules (rules : place ≠ .rules) {awaited : Prop}
    (given : c.path? .rules = some path)
    (given' : (c.redirect place).path? .rules = some path') :
    Couples c (c.redirect place) (Feeds files content awaited) (loadRules path) (loadRules path') Eq
      (Feeds files content awaited) := by
  intro s t feeds
  rw [Command.path?_redirect, if_neg rules.symm, given] at given'
  cases given'
  rw [loadRules, loadRules, feeds.left, feeds.right]
  cases files.file path with
  | error reason => exact .inl ⟨.ruleSet (.unreadable reason), rfl, rfl⟩
  | ok text =>
      dsimp only
      cases RuleSet.ofJson text with
      | error error => exact .inl ⟨.ruleSet error, rfl, rfl⟩
      | ok set => exact .inr ⟨set, set, s, t, rfl, rfl, rfl, feeds⟩

/-- Read a value and test it. -/
def readVerdict (matcher : Matcher) (path : String) : Reading Verdict := do
  let value ← readJson path
  return { file := path, matched := matcher.test value }

theorem couples_readVerdict (isFed : IsFed c place files content) (first : other ∉ rest)
    (given : c.path? other = some path) (given' : (c.redirect place).path? other = some path')
    (matcher : Matcher) :
    Couples c (c.redirect place) (Feeds files content (place ∈ other :: rest))
      (readVerdict matcher path) (readVerdict matcher path')
      (fun v v' => ∃ matched, v = ⟨path, matched⟩ ∧ v' = ⟨path', matched⟩)
      (Feeds files content (place ∈ rest)) := by
  refine (couples_readJson isFed first given given').bind fun value _ same => ?_
  subst same
  exact .pure ⟨matcher.test value, rfl, rfl⟩

/-- Values are tested one after the other, and each comes out alike. -/
theorem couples_verdicts (isFed : IsFed c place files content) (matcher : Matcher) (start : Nat)
    (paths paths' : List String) (given : ∀ k, c.path? (.value (start + k)) = paths[k]?)
    (given' : ∀ k, (c.redirect place).path? (.value (start + k)) = paths'[k]?) :
    Couples c (c.redirect place)
      (Feeds files content (place ∈ (List.range' start paths.length).map .value))
      (paths.mapM (readVerdict matcher)) (paths'.mapM (readVerdict matcher))
      (fun vs vs' => ∃ matched : List Bool,
        vs = List.zipWith Verdict.mk paths matched ∧ vs' = List.zipWith Verdict.mk paths' matched)
      (Feeds files content False) := by
  induction paths generalizing start paths' with
  | nil =>
      have missing := given' 0
      rw [Command.path?_redirect, given 0] at missing
      cases paths' with
      | nil =>
          exact fun s t feeds =>
            .inr ⟨[], [], s, t, rfl, rfl, ⟨[], rfl, rfl⟩, feeds.mono False.elim⟩
      | cons path' more' => split at missing <;> cases missing
  | cons path paths ih =>
      have present := given' 0
      rw [Command.path?_redirect, given 0] at present
      cases paths' with
      | nil => split at present <;> cases present
      | cons path' paths' =>
          -- Each value has a place of its own, though the same path may be given twice.
          have first : Place.value start ∉ (List.range' (start + 1) paths.length).map .value := by
            simp only [List.mem_map, Place.value.injEq, exists_eq_right, List.mem_range'_1]
            omega
          have later (k : Nat) : start + (k + 1) = start + 1 + k := by omega
          rw [List.mapM_cons, List.mapM_cons]
          refine (couples_readVerdict isFed first (given 0) (given' 0) matcher).bind ?_
          rintro _ _ ⟨matched, rfl, rfl⟩
          refine (ih (start + 1) paths' ?_ ?_).bind ?_
          · intro k
            rw [← later]
            exact given (k + 1)
          · intro k
            rw [← later]
            exact given' (k + 1)
          · rintro _ _ ⟨more, rfl, rfl⟩
            exact .pure ⟨matched :: more, rfl, rfl⟩

/-! ## Runs -/

/-- Two runs find out the same. -/
def ShowAlike (i i' : Invocation) (outcome outcome' : Outcome) : Prop :=
  ∃ finding : Finding, outcome = finding.shown i ∧ outcome' = finding.shown i'

theorem finish_couples {α β : Type} {i i' : Invocation} {P Q : Inputs → Inputs → Prop}
    {x : Reading α} {y : Reading β} {R : α → β → Prop} {f : α → Inputs → Outcome}
    {g : β → Inputs → Outcome} {stderr stderr' : String} {s t : Inputs}
    (couples : Couples i.command i'.command P x y R Q) (before : P s t)
    (fails : ∀ fault : Fault, ShowAlike i i'
      { stderr, failure := some (fault.shown i.command) }
      { stderr := stderr', failure := some (fault.shown i'.command) })
    (goesOn : ∀ a b s t, R a b → Q s t → ShowAlike i i' (f a s) (g b t)) :
    ShowAlike i i' (finish stderr x s f) (finish stderr' y t g) := by
  rw [finish, finish]
  rcases couples before with ⟨fault, left, right⟩ | ⟨a, b, s', t', left, right, related, after⟩
  · rw [left, right]
    exact fails fault
  · rw [left, right]
    exact goesOn a b s' t' related after

/-- What is fed is there at the start. -/
theorem feeds_start (files : Inputs) (content : Content) (awaited : Prop) :
    Feeds files content awaited files { files with stdin := content } :=
  ⟨rfl, rfl, fun _ => rfl⟩

variable {i : Invocation}

theorem runTest_alike {pattern : String} {values : List String} {ns : Option String}
    (isFed : IsFed i.command place files content) (shape : i.command = .test pattern values ns) :
    ShowAlike i (i.redirect place) (i.run files)
      ((i.redirect place).run { files with stdin := content }) := by
  obtain ⟨pattern', values', ns', shape'⟩ :
      ∃ pattern' values' ns', (i.redirect place).command = .test pattern' values' ns' := by
    rw [Invocation.redirect, shape]
    cases place <;> exact ⟨_, _, _, rfl⟩
  have given (other : Place) : i.command.path? other = _ := congrArg (·.path? other) shape
  have given' (other : Place) : (i.command.redirect place).path? other = _ :=
    congrArg (·.path? other) shape'
  have matchers := couples_loadMatcher isFed ((List.range' 0 values.length).map .value) (by simp)
    (by simp) (given .pattern) (given' .pattern) (given .ns) (given' .ns)
  rw [Invocation.run, Invocation.run, shape', shape]
  refine finish_couples matchers (feeds_start files content _) ?_ ?_
  · exact fun fault => ⟨.unloaded fault, rfl, rfl⟩
  · rintro matcher _ s t rfl feeds
    have verdicts := couples_verdicts isFed matcher 0 values values'
      (fun k => by rw [Nat.zero_add]; exact given (.value k))
      (fun k => by rw [Nat.zero_add]; exact given' (.value k))
    refine finish_couples verdicts feeds ?_ ?_
    · intro fault
      refine ⟨.untested matcher.kindName fault, ?_, ?_⟩
      · rw [Finding.shown, shape]
        rfl
      · rw [Finding.shown, shape']
        rfl
    · rintro _ _ s t ⟨matched, rfl, rfl⟩ -
      refine ⟨.tested matcher.kindName matched, ?_, ?_⟩
      · rw [Finding.shown, shape]
        rfl
      · rw [Finding.shown, shape']
        rfl

theorem runScore_alike {rules left right : String} {ns : Option String}
    (isFed : IsFed i.command place files content) (other : place ≠ .rules)
    (shape : i.command = .score rules left right ns) :
    ShowAlike i (i.redirect place) (i.run files)
      ((i.redirect place).run { files with stdin := content }) := by
  obtain ⟨rules', left', right', ns', shape'⟩ :
      ∃ rules' left' right' ns', (i.redirect place).command = .score rules' left' right' ns' := by
    rw [Invocation.redirect, shape]
    cases place <;> exact ⟨_, _, _, _, rfl⟩
  have given (other : Place) : i.command.path? other = _ := congrArg (·.path? other) shape
  have given' (other : Place) : (i.command.redirect place).path? other = _ :=
    congrArg (·.path? other) shape'
  have subjects : Couples i.command (i.command.redirect place)
      (Feeds files content (place ∈ [.left, .right, .ns]))
      (readSubjects ⟨rules, left, right⟩ ns) (readSubjects ⟨rules', left', right'⟩ ns') Eq
      (Feeds files content (place ∈ [])) := by
    refine .bind (couples_readJson isFed (by decide) (given .left) (given' .left)) ?_
    rintro x _ rfl
    refine .bind (couples_readJson isFed (by decide) (given .right) (given' .right)) ?_
    rintro y _ rfl
    refine .bind (couples_loadNamespace isFed (by decide) (given .ns) (given' .ns)) ?_
    rintro fields _ rfl
    exact .pure rfl
  rw [Invocation.run, Invocation.run, shape', shape]
  refine finish_couples (couples_loadRules other (given .rules) (given' .rules))
    (feeds_start files content (place ∈ [.left, .right, .ns])) ?_ ?_
  · exact fun fault => ⟨.unloaded fault, rfl, rfl⟩
  · rintro set _ s t rfl feeds
    refine finish_couples subjects feeds ?_ ?_
    · intro fault
      refine ⟨.unscored set.size fault, ?_, ?_⟩
      · rw [Finding.shown, shape]
        rfl
      · rw [Finding.shown, shape']
        rfl
    · rintro ⟨x, y, fields⟩ _ s t rfl -
      refine ⟨.scored set.size (set.execute x y fields), ?_, ?_⟩
      · rw [Finding.shown, shape]
        rfl
      · rw [Finding.shown, shape']
        rfl

theorem runCheck_alike {rules : String} (other : place ≠ .rules)
    (shape : i.command = .check rules) :
    ShowAlike i (i.redirect place) (i.run files)
      ((i.redirect place).run { files with stdin := content }) := by
  have shape' : (i.redirect place).command = .check rules := by
    rw [Invocation.redirect, shape]
    exact if_neg other
  have given (other : Place) : i.command.path? other = _ := congrArg (·.path? other) shape
  have given' (other : Place) : (i.command.redirect place).path? other = _ :=
    congrArg (·.path? other) shape'
  rw [Invocation.run, Invocation.run, shape', shape]
  refine finish_couples (couples_loadRules other (given .rules) (given' .rules))
    (feeds_start files content False) ?_ ?_
  · exact fun fault => ⟨.unloaded fault, rfl, rfl⟩
  · rintro set _ s t rfl -
    refine ⟨.listed set, ?_, ?_⟩
    · rw [Finding.shown, shape]
      rfl
    · rw [Finding.shown, shape']
      rfl

/-- For any place but that of the rules, the same is found out from what is fed. -/
theorem run_alike (isFed : IsFed i.command place files content) (other : place ≠ .rules) :
    ShowAlike i (i.redirect place) (i.run files)
      ((i.redirect place).run { files with stdin := content }) := by
  cases shape : i.command with
  | test pattern values ns => exact runTest_alike isFed shape
  | score rules left right ns => exact runScore_alike isFed other shape
  | check rules => exact runCheck_alike other shape

/-- Without a file of that name, the standard input is never taken for rules. -/
theorem run_redirect_rules {reason : String} (given : i.command.path? .rules = some path)
    (absent : files.file "-" = .error reason) (content : Content) :
    (i.redirect .rules).run { files with stdin := content } =
      { failure := some (.ruleSet (.unreadable reason)) } := by
  have rules : loadRules "-" { files with stdin := content } =
      .error (.ruleSet (.unreadable reason)) := by
    rw [loadRules, absent]
  obtain ⟨command, verbose, format⟩ := i
  cases command with
  | test pattern values ns => cases given
  | score rules' left right ns =>
      change finish "" (loadRules "-") _ _ = _
      rw [finish, rules]
  | check rules' =>
      change finish "" (loadRules "-") _ _ = _
      rw [finish, rules]

/-- A place that has a path is among the paths of the command. -/
theorem mem_paths_of_path? (given : i.command.path? place = some path) : path ∈ i.paths := by
  rw [Invocation.paths]
  cases shape : i.command with
  | test pattern values ns =>
      rw [shape] at given
      cases place with
      | pattern =>
          cases given
          exact List.mem_cons_self
      | value index =>
          have inside := List.mem_of_getElem? given
          exact List.mem_append_left _ (List.mem_cons_of_mem _ inside)
      | ns => exact List.mem_append_right _ (Option.mem_toList.mpr given)
      | rules | left | right => cases given
  | score rules left right ns =>
      rw [shape] at given
      cases place with
      | ns =>
          have last : path ∈ ns.toList := Option.mem_toList.mpr given
          exact List.mem_append_right [rules, left, right] last
      | rules | left | right =>
          cases given
          simp
      | pattern | value _ => cases given
  | check rules =>
      rw [shape] at given
      cases place <;> cases given
      exact List.mem_cons_self

/-- A file may be fed through the standard input for any place but that of the rules: the command
then finds out the same, and shows it with the hyphen as the path. What cannot be read from the file
cannot be read when it is fed. For the rules the command fails, whatever is fed, if there is no file
of that name. -/
theorem run_redirect {reason : String} (given : i.command.path? place = some path)
    (named : "-" ∉ i.paths) (held : files.file path = content)
    (absent : files.file "-" = .error reason) :
    let redirected := (i.redirect place).run { files with stdin := content }
    (place ≠ .rules → ShowAlike i (i.redirect place) (i.run files) redirected ∧
      redirected.failure.isSome = (i.run files).failure.isSome) ∧
      (place = .rules → redirected = { failure := some (.ruleSet (.unreadable reason)) }) := by
  constructor
  · intro other
    have isFed : IsFed i.command place files content := by
      refine ⟨?_, ?_⟩
      · rintro other path given rfl
        exact named (mem_paths_of_path? given)
      · intro other same
        cases given.symm.trans same
        exact held
    have alike := run_alike isFed other
    refine ⟨alike, ?_⟩
    obtain ⟨finding, first, second⟩ := alike
    rw [first, second, Finding.isSome_failure_shown, Finding.isSome_failure_shown]
  · rintro rfl
    exact run_redirect_rules given absent content

/-- Files with their texts; other files cannot be read. -/
def filesOf (texts : List (String × String)) : Inputs where
  file := fun path =>
    (texts.lookup path).elim (.error "No such file or directory (os error 2)") .ok
  stdin := ""

/-- One of two values from the same file is fed. -/
theorem run_redirect_value :
    let files := filesOf [("pattern.json", "[1]"), ("value.json", "[0, 1]")]
    let i : Invocation :=
      { command := .test "pattern.json" ["value.json", "value.json"] none, verbose := true }
    i.command.path? (.value 1) = some "value.json" ∧ "-" ∉ i.paths ∧
      files.file "value.json" = .ok "[0, 1]" ∧
      files.file "-" = .error "No such file or directory (os error 2)" ∧
      ShowAlike i (i.redirect (.value 1)) (i.run files)
        ((i.redirect (.value 1)).run { files with stdin := "[0, 1]" }) := by
  intro files i
  have given : i.command.path? (.value 1) = some "value.json" := rfl
  have named : "-" ∉ i.paths := by decide
  have held : files.file "value.json" = .ok "[0, 1]" := rfl
  exact ⟨given, named, held, rfl, ((run_redirect given named held rfl).1 (by decide)).1⟩

/-- A file that is no text cannot be read, and neither can it when it is fed. -/
example :
    let reason := "stream did not contain valid UTF-8"
    let files : Inputs := { file := fun _ => .error reason, stdin := "" }
    let i : Invocation := { command := .test "pattern.json" ["value.json"] none }
    (i.run files).failure = some (.unreadable "pattern.json") ∧
      ((i.redirect .pattern).run { files with stdin := .error reason }).failure =
        some .unreadableStdin :=
  ⟨rfl, rfl⟩

/-- An empty list of rules is listed from its file, and is not taken from the standard input. -/
theorem exists_redirect_refused :
    let files := filesOf [("rules.json", "[]")]
    let i : Invocation := { command := .check "rules.json" }
    i.command.path? .rules = some "rules.json" ∧ "-" ∉ i.paths ∧
      files.file "rules.json" = .ok "[]" ∧
      files.file "-" = .error "No such file or directory (os error 2)" ∧
      i.run files = { stdout := "rules.json: 0 rules OK\n" } ∧
      ¬ ShowAlike i (i.redirect .rules) (i.run files)
        ((i.redirect .rules).run { files with stdin := "[]" }) := by
  intro files i
  have listed : i.run files = { stdout := "rules.json: 0 rules OK\n" } := by
    have text : RuleSet.ofJson "[]" = .ok ⟨[]⟩ := by cbv
    have loaded : loadRules "rules.json" files = .ok (⟨[]⟩, files) := by
      rw [loadRules, show files.file "rules.json" = .ok "[]" from rfl]
      dsimp only
      rw [text]
    have report : RuleSet.report ⟨[]⟩ .text false "rules.json" = "rules.json: 0 rules OK\n" := by
      decide +kernel
    change finish "" (loadRules "rules.json") files _ = _
    rw [finish_of_ok loaded, report]
  have absent : files.file "-" = .error "No such file or directory (os error 2)" := rfl
  refine ⟨rfl, by decide, rfl, absent, listed, ?_⟩
  rintro ⟨finding, first, second⟩
  rw [run_redirect_rules rfl absent] at second
  rw [listed] at first
  have done : finding.fails = false := by
    rw [← finding.isSome_failure_shown i, ← first]
    rfl
  rw [← finding.isSome_failure_shown (i.redirect .rules), ← second] at done
  cases done

end Semblance.Cli
