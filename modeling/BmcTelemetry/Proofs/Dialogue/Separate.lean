import BmcTelemetry.Proofs.Dialogue.Reach
import Mathlib.Data.List.Nodup

/-!
Separate surroundings: each question concerns one host, and each host remembers for itself.

A dialogue with many hosts comes to the same, as far as one of them is concerned, as a dialogue with
that host alone. So whatever the other hosts answer makes no difference to it.
-/

namespace BmcTelemetry

namespace Dialogue

variable {I J : Interface} {α β γ δ σ : Type}

/-- Surroundings put together from hosts that know nothing of each other. -/
def together (hostOf : I.Query → String) (parts : String → Handler I σ) :
    Handler I (String → σ) := fun question memories =>
  let host := hostOf question
  let (reply, memory) := parts host question (memories host)
  (reply, fun name => if name = host then memory else memories name)

/-- Every question of a dialogue concerns one host. -/
def Concerns (hostOf : I.Query → String) (host : String) : Dialogue I α → Prop
  | .done _ => True
  | .ask question next => hostOf question = host ∧ ∀ reply, (next reply).Concerns hostOf host
  | .note _ next => next.Concerns hostOf host

section Concerns

variable {hostOf : I.Query → String} {host : String}

/-- A dialogue at its end concerns any host. -/
theorem concerns_pure (value : α) : (pure value : Dialogue I α).Concerns hostOf host := trivial

/-- A question about a host concerns it. -/
theorem concerns_query {question : I.Query} (about : hostOf question = host) :
    (query question).Concerns hostOf host := ⟨about, fun _ => trivial⟩

/-- Two dialogues in a row concern a host when each of them does. -/
theorem Concerns.bind {dialogue : Dialogue I α} (first : dialogue.Concerns hostOf host)
    {next : α → Dialogue I β} (onward : ∀ value, (next value).Concerns hostOf host) :
    (dialogue >>= next).Concerns hostOf host := by
  -- The first tree is gone down with all its branches, and the second one hangs at each end.
  induction dialogue with
  | done value => exact onward value
  | ask question branch ih => exact ⟨first.1, fun reply => ih reply (first.2 reply)⟩
  | note event branch ih => exact ih first

/-- A report asks nobody. -/
theorem concerns_report_bind (event : Event) {next : Unit → Dialogue I α}
    (onward : (next ()).Concerns hostOf host) :
    (report event >>= next).Concerns hostOf host := onward

/-- Dialogues one after another concern a host when each of them does. -/
theorem concerns_mapM {program : γ → Dialogue I α} (items : List γ)
    (each : ∀ item, (program item).Concerns hostOf host) :
    (items.mapM program).Concerns hostOf host := by
  -- The items are gone through one by one, and the list of values is an end.
  induction items with
  | nil => exact concerns_pure []
  | cons item rest ih =>
    rw [List.mapM_cons]
    exact (each item).bind fun _ => ih.bind fun _ => concerns_pure _

/-- A translated dialogue concerns a host when all programs that answer it do. -/
theorem concerns_translate {program : (question : J.Query) → Dialogue I (J.Reply question)}
    (each : ∀ question, (program question).Concerns hostOf host) (dialogue : Dialogue J α) :
    (dialogue.translate program).Concerns hostOf host := by
  -- Each question is replaced by a program, which asks the same host.
  induction dialogue with
  | done value => trivial
  | ask question next ih => exact (each question).bind ih
  | note event next ih => exact ih

/-- A dialogue is left with the same questions after its remarks. -/
theorem Concerns.afterRemarks {dialogue : Dialogue I α}
    (concerns : dialogue.Concerns hostOf host) : dialogue.afterRemarks.Concerns hostOf host := by
  -- What is left out stands in front of the first question, and asks nobody.
  induction dialogue with
  | done value => trivial
  | ask question next _ => exact concerns
  | note event next ih => exact ih concerns

/-- A dialogue about one host goes as with that host alone, and no other host notices. -/
theorem Concerns.reach_together {dialogue : Dialogue I α}
    (concerns : dialogue.Concerns hostOf host) (parts : String → Handler I σ)
    (memories : String → σ) :
    dialogue.reach (together hostOf parts) memories
      = ((dialogue.reach (parts host) (memories host)).1, fun name =>
          if name = host then (dialogue.reach (parts host) (memories host)).2
          else memories name) := by
  -- Each question is answered by the host and changes what the host remembers.
  induction dialogue generalizing memories with
  | done value =>
    -- Nothing is asked, so that every host remembers what it did.
    refine Prod.ext rfl (funext fun name => ?_)
    change memories name = if name = host then memories host else memories name
    split
    next same => rw [same]
    next => rfl
  | ask question next ih =>
    -- The question goes to the host, and so does everything that follows from the answer.
    obtain ⟨rfl, onward⟩ := concerns
    rw [reach_ask, ih _ (onward _), reach_ask]
    refine Prod.ext ?_ (funext fun name => ?_)
    -- The host gives the answer that it would give alone, from what it remembers.
    · simp only [together, if_true]
    -- What the answer leaves behind is remembered by this host and by no other.
    · by_cases same : name = hostOf question
      · simp only [together, same, if_true]
      · simp only [together, same, if_false]
  | note event next ih => exact ih concerns memories

end Concerns

/-- Seen from one host, a dialogue with many comes to what a dialogue with that host alone does. -/
def Seen (hostOf : I.Query → String) (host : String) (whole : Dialogue I α) (view : α → β)
    (own : Dialogue I β) : Prop :=
  ∀ (σ : Type) (parts : String → Handler I σ) (memories : String → σ),
    own.reach (parts host) (memories host)
      = (view (whole.reach (together hostOf parts) memories).1,
          (whole.reach (together hostOf parts) memories).2 host)

section Seen

variable {hostOf : I.Query → String} {host : String} {view : α → β}

/-- A dialogue at its end is seen as it is. -/
theorem seen_pure (value : α) :
    Seen hostOf host (pure value) view (pure (view value)) := fun _ _ _ => rfl

/-- A dialogue about the host itself is seen as it is. -/
theorem Concerns.seen {dialogue : Dialogue I α} (concerns : dialogue.Concerns hostOf host) :
    Seen hostOf host dialogue id dialogue := by
  intro σ parts memories
  -- The whole comes to what the host alone does, and its memory is the one looked at.
  rw [concerns.reach_together]
  simp only [id_eq, if_true]

/-- A dialogue about another host is not seen at all. -/
theorem Concerns.unseen {other : String} {dialogue : Dialogue I α}
    (concerns : dialogue.Concerns hostOf other) (differs : host ≠ other) :
    Seen hostOf host dialogue (fun _ => ()) (pure ()) := by
  intro σ parts memories
  -- The other host is asked, so that this one remembers what it did.
  rw [concerns.reach_together]
  simp only [if_neg differs, reach_pure]

/-- What is seen of two dialogues in a row, the second told from what is seen of the first. -/
theorem Seen.bind {first : Dialogue I α} {own : Dialogue I β}
    (seen : Seen hostOf host first view own) {next : α → Dialogue I γ} {later : γ → δ}
    {onward : β → Dialogue I δ}
    (rest : ∀ value, Seen hostOf host (next value) later (onward (view value))) :
    Seen hostOf host (first >>= next) later (own >>= onward) := by
  intro σ parts memories
  -- Seen from the host, the first dialogue comes to the same value and memory as its own.
  rw [reach_bind, reach_bind, seen σ parts memories]
  exact rest _ σ parts _

/-- A question about the host is seen, and so is what follows from the answer. -/
theorem seen_ask {question : I.Query} (about : hostOf question = host)
    {next : I.Reply question → Dialogue I α} {onward : I.Reply question → Dialogue I β}
    (rest : ∀ reply, Seen hostOf host (next reply) view (onward reply)) :
    Seen hostOf host (.ask question next) view (.ask question onward) := by
  subst about
  intro σ parts memories
  -- The host remembers what its own answer leaves behind.
  have kept : (together hostOf parts question memories).2 (hostOf question)
      = (parts (hostOf question) question (memories (hostOf question))).2 := if_pos rfl
  rw [reach_ask, reach_ask, ← kept]
  exact rest _ σ parts _

/-- A question about another host is not seen. -/
theorem seen_ask_other {question : I.Query} (about : hostOf question ≠ host)
    {next : I.Reply question → Dialogue I α} {own : Dialogue I β}
    (rest : ∀ reply, Seen hostOf host (next reply) view own) :
    Seen hostOf host (.ask question next) view own := by
  intro σ parts memories
  -- The host remembers what it did before the question.
  have kept : (together hostOf parts question memories).2 host = memories host :=
    if_neg (Ne.symm about)
  rw [reach_ask, ← kept]
  exact rest _ σ parts _

/-- What comes to the same as what is seen is seen as well. -/
theorem Seen.congr {whole : Dialogue I α} {own other : Dialogue I β}
    (seen : Seen hostOf host whole view own)
    (same : ∀ {σ : Type} (handler : Handler I σ) (memory : σ),
      other.reach handler memory = own.reach handler memory) :
    Seen hostOf host whole view other :=
  fun σ parts memories => (same _ _).trans (seen σ parts memories)

/-- Answering each question by a program about the same host changes nothing about what is seen. -/
theorem Seen.translate {asksOf : J.Query → String} {whole : Dialogue J α} {own : Dialogue J β}
    (seen : Seen asksOf host whole view own)
    {program : (question : J.Query) → Dialogue I (J.Reply question)}
    (each : ∀ question, (program question).Concerns hostOf (asksOf question)) :
    Seen hostOf host (whole.translate program) view (own.translate program) := by
  intro σ parts memories
  rw [reach_translate, reach_translate]
  -- The programs make each host's part into one that answers the questions themselves.
  have parted : (fun question => (program question).reach (together hostOf parts))
      = together asksOf fun name question => (program question).reach (parts name) := by
    funext question memories
    exact (each question).reach_together parts memories
  rw [parted]
  exact seen σ (fun name question => (program question).reach (parts name)) memories

/-- What comes to the same as a dialogue is seen as the dialogue is. -/
theorem Seen.of_whole {whole other : Dialogue I α} {own : Dialogue I β}
    (seen : Seen hostOf host whole view own)
    (same : ∀ {σ : Type} (handler : Handler I σ) (memory : σ),
      other.reach handler memory = whole.reach handler memory) :
    Seen hostOf host other view own := by
  intro σ parts memories
  -- Runs are all that is seen, and both dialogues have the same.
  rw [same]
  exact seen σ parts memories

end Seen

/-- What the dialogue of one speaker contributes, and what is known already where none speaks. -/
def share (name : String) (known : Option α) : List (String × Dialogue I α) → Dialogue I (Option α)
  | [] => pure known
  | (speaker, dialogue) :: rest =>
    if speaker = name then some <$> dialogue else share name known rest

section Share

variable {name speaker : String} {known : Option α} {dialogue : Dialogue I α}
  {speakers rest served : List (String × Dialogue I α)}

/-- Where nobody of the name speaks, what is known stays. -/
theorem share_absent (absent : name ∉ speakers.map Prod.fst) :
    share name known speakers = pure known := by
  -- The names are compared one by one, and none of them is the one that is looked for.
  induction speakers with
  | nil => rfl
  | cons first others ih =>
    rw [List.map_cons, List.mem_cons, not_or] at absent
    rw [share, if_neg (Ne.symm absent.1), ih absent.2]

/-- Speakers of other names make no difference. -/
theorem share_append_other (differs : speaker ≠ name) :
    share name known (served ++ (speaker, dialogue) :: rest)
      = share name known (served ++ rest) := by
  -- Those who come before are the same on both sides, and the other speaker is passed over.
  induction served with
  | nil => exact if_neg differs
  | cons first others ih => simp only [List.cons_append, share, ih]

/-- The only speaker of the name contributes. -/
theorem share_append_self (others : name ∉ served.map Prod.fst) :
    share name known (served ++ (name, dialogue) :: rest) = some <$> dialogue := by
  -- Those who come before have other names, so that the search ends at this speaker.
  induction served with
  | nil => exact if_pos rfl
  | cons first later ih =>
    rw [List.map_cons, List.mem_cons, not_or] at others
    rw [List.cons_append, share, if_neg (Ne.symm others.1), ih others.2]

/-- Dialogues that come to the same contribute the same. -/
theorem reach_share_congr {before after : Dialogue I α}
    (same : ∀ {σ : Type} (handler : Handler I σ) (memory : σ),
      before.reach handler memory = after.reach handler memory)
    {σ : Type} (handler : Handler I σ) (memory : σ) :
    (share name known (served ++ (speaker, before) :: rest)).reach handler memory
      = (share name known (served ++ (speaker, after) :: rest)).reach handler memory := by
  -- The search for the name passes those who come before in the same way on both sides.
  induction served with
  | nil =>
    simp only [List.nil_append, share]
    split
    -- The speaker contributes what its dialogue comes to, which is the same before and after.
    · simp only [map_eq_pure_bind, reach_bind, reach_pure, same]
    · rfl
  | cons first others ih =>
    simp only [List.cons_append, share]
    split
    · rfl
    · exact ih

/-- With a dialogue for each name, it only matters whether the name is among them. -/
theorem share_map (dialogue : String → Dialogue I α) (names : List String) :
    share name known (names.map fun other => (other, dialogue other))
      = if name ∈ names then some <$> dialogue name else pure known := by
  -- Each name is held against the one that is looked for.
  induction names with
  | nil => rfl
  | cons first others ih =>
    rw [List.map_cons, share, ih]
    by_cases same : first = name
    · simp only [same, if_true, List.mem_cons_self]
    · simp only [if_neg same, List.mem_cons, Ne.symm same, false_or]

end Share

section Gathering

variable {hostOf : I.Query → String} {host : String}

/-- Each speaker talks about the host of the same name, and no two about the same. -/
structure Seated (hostOf : I.Query → String) (speakers : List (String × Dialogue I α)) : Prop where
  /-- The names are distinct. -/
  distinct : (speakers.map Prod.fst).Nodup
  /-- Each dialogue concerns the host that it is named after. -/
  concerns : ∀ speaker ∈ speakers, speaker.2.Concerns hostOf speaker.1

/-- Whoever rises leaves the others as they are. -/
theorem Seated.rise {served rest : List (String × Dialogue I α)} {speaker : String × Dialogue I α}
    (seated : Seated hostOf (served ++ speaker :: rest)) : Seated hostOf (served ++ rest) := by
  -- The others stay in their order, so that their names are still distinct.
  have fewer : (served ++ rest).Sublist (served ++ speaker :: rest) :=
    (List.sublist_cons_self speaker rest).append_left served
  exact ⟨seated.distinct.sublist (fewer.map _),
    fun other member => seated.concerns other (fewer.subset member)⟩

/-- Whoever goes on talks about the same host as before. -/
theorem Seated.speak {served rest : List (String × Dialogue I α)} {name : String}
    {before after : Dialogue I α} (seated : Seated hostOf (served ++ (name, before) :: rest))
    (concerns : after.Concerns hostOf name) : Seated hostOf (served ++ (name, after) :: rest) := by
  refine ⟨by simpa using seated.distinct, fun other member => ?_⟩
  -- The others are as they were, in front of the speaker or behind.
  rcases List.mem_append.mp member with had | waits
  · exact seated.concerns other (List.mem_append_left _ had)
  · rcases List.mem_cons.mp waits with rfl | waits
    · exact concerns
    · exact seated.concerns other (List.mem_append_right _ (List.mem_cons_of_mem _ waits))

/-- Nobody else has the name of a speaker. -/
theorem Seated.others {served rest : List (String × Dialogue I α)} {speaker : String × Dialogue I α}
    (seated : Seated hostOf (served ++ speaker :: rest)) :
    speaker.1 ∉ (served ++ rest).map Prod.fst := by
  -- The names are distinct, so that the speaker's own name comes up once.
  have distinct := seated.distinct
  rw [List.map_append, List.map_cons, List.nodup_middle] at distinct
  rw [List.map_append]
  exact (List.nodup_cons.mp distinct).1

/-- Of dialogues held one by one, a host sees its own. -/
theorem seen_foldlM {speakers : List (String × Dialogue I α)} (seated : Seated hostOf speakers)
    (found : Std.TreeMap String α) :
    Seen hostOf host
      (speakers.foldlM (fun found (name, dialogue) => return found.insert name (← dialogue)) found)
      (·[host]?) (share host found[host]? speakers) := by
  -- The speakers come one after another, each with a part in what is found.
  induction speakers generalizing found with
  | nil => exact seen_pure found
  | cons speaker rest ih =>
    obtain ⟨name, dialogue⟩ := speaker
    -- The speaker talks about its own host, and what remains is seated as before.
    have concerns : dialogue.Concerns hostOf name := seated.concerns _ List.mem_cons_self
    have first : Seated hostOf ([] ++ (name, dialogue) :: rest) := seated
    have later : Seated hostOf rest := first.rise
    rw [List.foldlM_cons]
    simp only [LawfulMonad.bind_assoc, pure_bind]
    by_cases same : name = host
    · -- What the host ends with is found from then on.
      subst same
      have absent : name ∉ rest.map Prod.fst := first.others
      have own : Seen hostOf name dialogue id dialogue := concerns.seen
      rw [share, if_pos rfl, map_eq_pure_bind]
      refine own.bind fun value => ?_
      have gathered := ih later (found.insert name value)
      rwa [share_absent absent, Std.TreeMap.getElem?_insert_self] at gathered
    · -- The dialogue of another host is not seen and changes nothing of what is found.
      rw [share, if_neg same, ← pure_bind () fun _ => share host found[host]? rest]
      refine (concerns.unseen (Ne.symm same)).bind fun value => ?_
      have gathered := ih later (found.insert name value)
      rwa [Std.TreeMap.getElem?_insert, if_neg (by simpa using same)] at gathered

/-- Of dialogues that take turns, a host sees its own, whatever comes between its questions. -/
theorem seen_takeTurns (waiting served : List (String × Dialogue I α))
    (found : Std.TreeMap String α) (seated : Seated hostOf (served ++ waiting)) :
    Seen hostOf host (takeTurns waiting served found) (·[host]?)
      (share host found[host]? (served ++ waiting)) := by
  -- Whoever rises is found from then on, and whoever speaks leaves the others as they are.
  induction waiting, served, found using takeTurns.induct with
  | case1 found =>
    rw [takeTurns]
    exact seen_pure found
  | case2 found first others ih =>
    -- A new round starts with those who were served, in the same order.
    rw [takeTurns]
    simp only [List.append_nil, List.nil_append] at seated ih ⊢
    exact ih seated
  | case3 found name result rest served ih =>
    rw [takeTurns]
    have gathered := ih seated.rise
    -- The one who rises may be the host itself, and then its value is found from now on.
    by_cases same : name = host
    · subst same
      rw [share_append_self (fun had => seated.others (by simp_all))]
      rwa [share_absent seated.others, Std.TreeMap.getElem?_insert_self] at gathered
    · rw [share_append_other same]
      rwa [Std.TreeMap.getElem?_insert, if_neg (by simpa using same)] at gathered
  | case4 found name event dialogue rest served ih =>
    rw [takeTurns]
    -- A remark says nothing to any host, so that the speaker goes on as if it had made none.
    have concerns : dialogue.Concerns hostOf name :=
      seated.concerns (name, .note event dialogue) (by simp)
    have gathered := ih (seated.speak concerns)
    exact (gathered.congr (reach_share_congr fun handler memory =>
      reach_note handler memory event dialogue)).of_whole fun handler memory =>
        reach_note handler memory event _
  | case5 found name question next rest served ih =>
    rw [takeTurns]
    have concerns : (ask question next).Concerns hostOf name :=
      seated.concerns (name, .ask question next) (by simp)
    -- After its turn a speaker waits behind the others, with its remarks already made.
    have gathered : ∀ reply, Seen hostOf host
        (announce (next reply).remarks
          (takeTurns rest (served ++ [(name, (next reply).afterRemarks)]) found))
        (·[host]?) (share host found[host]? (served ++ (name, next reply) :: rest)) := by
      intro reply
      have turn := ih reply
      rw [List.append_assoc] at turn
      exact ((turn (seated.speak (concerns.2 reply).afterRemarks)).congr
        (reach_share_congr fun handler memory =>
          (reach_afterRemarks handler memory (next reply)).symm)).of_whole fun handler memory =>
            reach_announce handler memory _ _
    -- A question of the host itself is seen by it, and one of another host is not.
    by_cases same : name = host
    · subst same
      have alone : ∀ dialogue : Dialogue I α,
          share name found[name]? (served ++ (name, dialogue) :: rest) = some <$> dialogue :=
        fun dialogue => share_append_self fun had => seated.others (by simp_all)
      simp only [alone] at gathered ⊢
      exact seen_ask concerns.1 gathered
    · rw [share_append_other same]
      refine seen_ask_other (concerns.1.trans_ne same) fun reply => ?_
      have turn := gathered reply
      rwa [share_append_other same] at turn

end Gathering

/--
Two dialogues are parallel for a host: whatever the other hosts do in each of them, they end with
related values, and the host remembers the same after both.
-/
def Parallel (hostOf : I.Query → String) (host : String) (left : Dialogue I α)
    (right : Dialogue I β) (Related : α → β → Prop) : Prop :=
  ∀ (σ : Type) (parts others : String → Handler I σ) (memories remembered : String → σ),
    parts host = others host → memories host = remembered host →
      Related (left.reach (together hostOf parts) memories).1
          (right.reach (together hostOf others) remembered).1 ∧
        (left.reach (together hostOf parts) memories).2 host
          = (right.reach (together hostOf others) remembered).2 host

section Parallel

variable {hostOf : I.Query → String} {host : String} {left : Dialogue I α} {right : Dialogue I β}
  {Related : α → β → Prop}

/-- Dialogues at their ends are parallel when their values are related. -/
theorem parallel_pure {value : α} {other : β} (related : Related value other) :
    Parallel hostOf host (pure value) (pure other) Related :=
  fun _ _ _ _ _ _ remembers => ⟨related, remembers⟩

/-- Dialogues that look the same to a host are parallel for it. -/
theorem Seen.parallel {view : α → γ} {glance : β → γ} {own : Dialogue I γ}
    (seen : Seen hostOf host left view own) (again : Seen hostOf host right glance own) :
    Parallel hostOf host left right fun value other => view value = glance other := by
  intro σ parts others memories remembered same remembers
  have first := seen σ parts memories
  -- The host's own dialogue goes the same way in both.
  rw [same, remembers, again σ others remembered, Prod.mk.injEq] at first
  exact ⟨first.1.symm, first.2.symm⟩

/-- Parallel dialogues go on in parallel from whatever related values they come to. -/
theorem Parallel.bind (first : Parallel hostOf host left right Related) {next : α → Dialogue I γ}
    {onward : β → Dialogue I δ} {Further : γ → δ → Prop}
    (rest : ∀ value other, Related value other →
      Parallel hostOf host (next value) (onward other) Further) :
    Parallel hostOf host (left >>= next) (right >>= onward) Further := by
  intro σ parts others memories remembered same remembers
  -- Related values come with the same memory, which is all that the rest starts from.
  obtain ⟨related, further⟩ := first σ parts others memories remembered same remembers
  rw [reach_bind, reach_bind]
  exact rest _ _ related σ parts others _ _ same further

/-- Reports before parallel dialogues leave them parallel. -/
theorem Parallel.report (event other : Event)
    (parallel : Parallel hostOf host left right Related) :
    Parallel hostOf host (Dialogue.report event >>= fun _ => left)
      (Dialogue.report other >>= fun _ => right) Related := parallel

end Parallel

end Dialogue

namespace Attempt

variable {I : Interface} {α β γ : Type} {hostOf : I.Query → String} {host : String}

/-- Two attempts in a row concern a host when each of them does. -/
theorem concerns_bind {attempt : Attempt I α} (first : attempt.outcome.Concerns hostOf host)
    {next : α → Attempt I β} (onward : ∀ value, (next value).outcome.Concerns hostOf host) :
    (attempt >>= next).outcome.Concerns hostOf host := by
  refine Dialogue.Concerns.bind first fun result => ?_
  -- An error is the end, so that nothing more is asked.
  cases result with
  | error error => trivial
  | ok value => exact onward value

/-- A report asks nobody. -/
theorem concerns_report_bind (event : Event) {next : Unit → Attempt I α}
    (onward : (next ()).outcome.Concerns hostOf host) :
    (report event >>= next).outcome.Concerns hostOf host := onward

/-- A dialogue that never gives up concerns the same host within an attempt. -/
theorem concerns_liftDialogue {dialogue : Dialogue I α} (concerns : dialogue.Concerns hostOf host) :
    (outcome (ExceptT.lift dialogue)).Concerns hostOf host :=
  concerns.bind fun _ => Dialogue.concerns_pure _

/-- Attempts one after another concern a host when each of them does. -/
theorem concerns_mapM {program : γ → Attempt I α} (items : List γ)
    (each : ∀ item, (program item).outcome.Concerns hostOf host) :
    (items.mapM program).outcome.Concerns hostOf host := by
  -- The attempts come one after another, and the list of values asks nobody.
  induction items with
  | nil => trivial
  | cons item rest ih =>
    rw [List.mapM_cons]
    exact concerns_bind (each item) fun _ => concerns_bind ih fun _ => trivial

end Attempt

end BmcTelemetry
