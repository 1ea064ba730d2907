/-
  EventAlerts/Proofs/Engine/Blankness.lean
  ========================================
  **Messages with nothing to see** — which of the messages that a rule sends show anything.

  A message counts as empty if it has neither a text nor an embed, and it has an embed if its
  template has one, whatever becomes of the parts.  So a message without an embed is never sent
  blank.  One with an embed is sent wherever the conditions hold (`delivers_iff`), and it is
  blank if its text comes out empty and nothing comes out of any part of the embed
  (`shows_render_iff`).
-/
import EventAlerts.Proofs.Engine.Attempts
import EventAlerts.Proofs.Render.Mentions

namespace EventAlerts

open EventAlerts.Rule (Trigger)

/-! ### What a message shows -/

/-- Whether an embed has a color, a text or an address, a field, or a time. -/
def Embed.Shows (e : Embed) : Prop :=
  e.color ≠ none ∨ e.optionalTexts ≠ [] ∨ e.fields ≠ [] ∨ e.timestamp ≠ none

/-- Whether a message has a text that is not empty, or an embed that shows something. -/
def Message.Shows (m : Message) : Prop :=
  (∃ text, m.content = some text ∧ text ≠ "") ∨ ∃ e, m.embed = some e ∧ e.Shows

theorem Embed.shows_iff {e : Embed} : e.Shows ↔ e ≠ {} := by
  constructor
  · rintro shows rfl
    rcases shows with color | texts | fields | time
    · exact color rfl
    · exact texts rfl
    · exact fields rfl
    · exact time rfl
  · intro some
    by_contra blank
    apply some
    simp only [Embed.Shows, not_or, not_not, Embed.optionalTexts, List.filterMap_eq_nil_iff,
      List.forall_mem_cons, id_eq] at blank
    obtain ⟨color, ⟨authorName, authorUrl, authorIconUrl, title, titleUrl, description,
      thumbnailUrl, imageUrl, footerText, footerIconUrl, -⟩, fields, time⟩ := blank
    cases e
    simp_all

theorem Message.isEmpty_eq_false_iff {m : Message} :
    m.isEmpty = false ↔ (∃ text, m.content = some text ∧ text ≠ "") ∨ m.embed ≠ none := by
  rcases m with ⟨_ | text, _ | e⟩ <;> simp [Message.isEmpty]

/-! ### What a template fills in -/

/-- The texts and addresses of an embed, each with whether it is read. -/
def EmbedTemplate.parts (t : EmbedTemplate) : List (Bool × Option String) :=
  [(true, t.author.bind (·.name)), (false, t.author.bind (·.url)),
    (false, t.author.bind (·.iconUrl)), (true, t.title), (false, t.titleUrl),
    (true, t.description), (false, t.thumbnailUrl), (false, t.imageUrl),
    (true, t.footer.bind (·.text)), (false, t.footer.bind (·.iconUrl))]

namespace Render.Scope

/-- Whether something comes out of an optional text. -/
def Yields (s : Scope) (escape : Bool) (raw : Option String) : Prop :=
  ∃ t, raw = some t ∧ s.text escape t ≠ ""

/-- Whether something comes out of some part of an embed. -/
def YieldsEmbed (s : Scope) (t : EmbedTemplate) : Prop :=
  (∃ c, t.color = some c ∧ c.value? ≠ none) ∨ (∃ part ∈ t.parts, s.Yields part.1 part.2) ∨
    t.fields ≠ [] ∨ t.timestamp = true

variable {s : Scope}

theorem text?_ne_none_iff {escape : Bool} {raw : Option String} :
    s.text? escape raw ≠ none ↔ s.Yields escape raw := by
  cases raw with
  | none => simp [text?, Yields]
  | some t => simp [text?, Yields, Option.filter_eq_none_iff]

theorem shows_embed_iff {t : EmbedTemplate} : (s.embed t).Shows ↔ s.YieldsEmbed t := by
  have color : (s.embed t).color ≠ none ↔ ∃ c, t.color = some c ∧ c.value? ≠ none := by
    cases colored : t.color <;> simp [embed, colored]
  have texts : (s.embed t).optionalTexts ≠ [] ↔ ∃ part ∈ t.parts, s.Yields part.1 part.2 := by
    rw [optionalTexts_embed, Ne, List.filterMap_eq_nil_iff]
    push Not
    simp only [← text?_ne_none_iff, EmbedTemplate.parts]
  have fields : (s.embed t).fields ≠ [] ↔ t.fields ≠ [] := by simp [embed]
  have time : (s.embed t).timestamp ≠ none ↔ t.timestamp = true := by simp [embed]
  exact or_congr color (or_congr texts (or_congr fields time))

theorem content_render_iff {t : MessageTemplate} :
    (∃ text, (s.render t).message.content = some text ∧ text ≠ "") ↔ s.Yields true t.content := by
  rw [← text?_ne_none_iff, Option.ne_none_iff_exists']
  constructor
  · rintro ⟨text, there, _⟩
    exact ⟨text, there⟩
  · rintro ⟨text, there⟩
    exact ⟨text, there, (of_mem_text? there).2⟩

/-- A message shows something if and only if something comes out of its text, or of some part
    of its embed. -/
theorem shows_render_iff {t : MessageTemplate} :
    (s.render t).message.Shows ↔
      s.Yields true t.content ∨ ∃ e, t.embed = some e ∧ s.YieldsEmbed e := by
  refine or_congr content_render_iff ?_
  constructor
  · rintro ⟨_, embedded, shows⟩
    obtain ⟨e, template, rfl⟩ := Option.map_eq_some_iff.mp embedded
    exact ⟨e, template, shows_embed_iff.mp shows⟩
  · rintro ⟨e, template, yields⟩
    refine ⟨s.embed e, ?_, shows_embed_iff.mpr yields⟩
    exact Option.map_eq_some_iff.mpr ⟨e, template, rfl⟩

/-- Whether the template has an embed is all that is asked besides the text. -/
theorem isEmpty_render_iff {t : MessageTemplate} :
    (s.render t).message.isEmpty = false ↔ (s.render t).message.Shows ∨ t.embed ≠ none := by
  have embedded : (s.render t).message.embed ≠ none ↔ t.embed ≠ none := by simp [render]
  rw [Message.isEmpty_eq_false_iff, embedded, shows_render_iff, content_render_iff]
  constructor
  · rintro (content | some)
    · exact Or.inl (Or.inl content)
    · exact Or.inr some
  · rintro ((content | ⟨e, template, _⟩) | some)
    · exact Or.inl content
    · exact Or.inr (template ▸ Option.some_ne_none e)
    · exact Or.inr some

/-- A message with an embed that shows nothing is an embed without anything in it. -/
theorem message_eq_of_not_shows {t : MessageTemplate} (embedded : t.embed ≠ none)
    (blank : ¬ (s.render t).message.Shows) : (s.render t).message = { embed := some {} } := by
  obtain ⟨e, template⟩ := Option.ne_none_iff_exists'.mp embedded
  obtain ⟨content, parts⟩ := not_or.mp (mt shows_render_iff.mpr blank)
  have text : s.text? true t.content = none := by
    by_contra some
    exact content (text?_ne_none_iff.mp some)
  have nothing : s.embed e = {} := by
    by_contra some
    exact parts ⟨e, template, shows_embed_iff.mp (Embed.shows_iff.mpr some)⟩
  simp [render, shown?, text, template, nothing]

end Render.Scope

/-! ### Attempts to send -/

namespace AlertRule

variable {r : AlertRule} {s : Surroundings} {o : Occurrence} {base : OccurrenceContext}
  {matched : List Trigger} {d : Destination}

theorem delivers_iff :
    r.Delivers s o base d ↔
      (∀ c ∈ r.conditions, Expr.condition c (bindingsAt s o base d) = .ok true) ∧
        ((r.sendingTo s o base d).message.Shows ∨ r.template.embed ≠ none) :=
  and_congr Iff.rfl Render.Scope.isEmpty_render_iff

/-- A rule that delivers passed the gate, and its conditions can be evaluated. -/
theorem open_of_deliver {sendings : List Sending}
    (result : (r.prepare s matched o base).result = .deliver sendings) :
    matched ≠ [] ∧ ¬ (r.ignoreCancelled = true ∧ o.cancelled = some true) ∧
      ¬ ∃ d ∈ r.targets s, StopsAtError (bindingsAt s o base d) r.conditions := by
  have accepted : matched ≠ [] := by
    rintro rfl
    cases result
  have gate : ¬ (r.ignoreCancelled = true ∧ o.cancelled = some true) := by
    intro cancelled
    rw [prepare_of_cancelled accepted cancelled] at result
    cases result
  refine ⟨accepted, gate, ?_⟩
  intro error
  rw [prepare_of_error accepted gate error] at result
  cases result

theorem sendingsOf_of_open (accepted : matched ≠ [])
    (gate : ¬ (r.ignoreCancelled = true ∧ o.cancelled = some true))
    (fine : ¬ ∃ d ∈ r.targets s, StopsAtError (bindingsAt s o base d) r.conditions) :
    Outbox.sendingsOf (r.prepare s matched o base) = r.sendingsTo s o base (r.targets s) := by
  unfold Outbox.sendingsOf
  by_cases met : r.targets s = []
  · rw [prepare_of_unfound accepted gate met, met]
    rfl
  · rw [prepare_of_no_error accepted gate met fine]
    cases r.sendingsTo s o base (r.targets s) with
    | nil => rfl
    | cons first others => rfl

/-- The destinations that get an attempt are those where the conditions hold, and where the
    message shows something or has an embed. -/
theorem mem_sendingsOf_iff {m : Sending} :
    m ∈ Outbox.sendingsOf (r.prepare s matched o base) ↔
      (matched ≠ [] ∧ ¬ (r.ignoreCancelled = true ∧ o.cancelled = some true) ∧
        ¬ ∃ d ∈ r.targets s, StopsAtError (bindingsAt s o base d) r.conditions) ∧
      ∃ d ∈ r.targets s, m = r.sendingTo s o base d ∧
        (∀ c ∈ r.conditions, Expr.condition c (bindingsAt s o base d) = .ok true) ∧
        (m.message.Shows ∨ r.template.embed ≠ none) := by
  constructor
  · intro attempted
    obtain ⟨sendings, result, there⟩ := Outbox.deliver_of_mem_sendingsOf attempted
    have passed := open_of_deliver result
    refine ⟨passed, ?_⟩
    rw [sendings_of_deliver result] at there
    obtain ⟨d, chosen, rfl⟩ := List.mem_map.mp there
    obtain ⟨found, delivers⟩ := List.mem_filter.mp chosen
    exact ⟨d, found, rfl, delivers_iff.mp (of_decide_eq_true delivers)⟩
  · rintro ⟨⟨accepted, gate, fine⟩, d, found, rfl, shown⟩
    rw [sendingsOf_of_open accepted gate fine]
    apply List.mem_map_of_mem
    exact List.mem_filter.mpr ⟨found, decide_eq_true (delivers_iff.mpr shown)⟩

/-- Which messages a rule sends, and which of them show anything.

    A rule that passed the gate without an error sends a message to every destination where the
    conditions hold, if the message shows something or the template has an embed.  A message
    shows something if anything comes out of the template's text or of a part of its embed.  A
    message that shows nothing is an embed without anything in it.  So without an embed in the
    template no message is sent blank, and none is sent at all if none would show anything. -/
theorem sent_if_shown_or_embedded (r : AlertRule) (s : Surroundings) (matched : List Trigger)
    (o : Occurrence) (base : OccurrenceContext) :
    let p := r.prepare s matched o base
    let attempts := Outbox.sendingsOf p
    (∀ platform : Recorder, (r.run s matched o base platform).2.calls =
      platform.calls ++ (p.lookups.map .lookup ++ attempts.map .sending)) ∧
    (∀ m, m ∈ attempts ↔
      (matched ≠ [] ∧ ¬ (r.ignoreCancelled = true ∧ o.cancelled = some true) ∧
        ¬ ∃ d ∈ r.targets s, StopsAtError (bindingsAt s o base d) r.conditions) ∧
      ∃ d ∈ r.targets s, m = r.sendingTo s o base d ∧
        (∀ c ∈ r.conditions, Expr.condition c (bindingsAt s o base d) = .ok true) ∧
        (m.message.Shows ∨ r.template.embed ≠ none)) ∧
    (∀ m ∈ attempts,
      let scope := scopeAt s o base m.destination
      (m.message.Shows ↔ scope.Yields true r.template.content ∨
        ∃ e, r.template.embed = some e ∧ scope.YieldsEmbed e) ∧
      (¬ m.message.Shows → m.message = { embed := some {} })) ∧
    (r.template.embed = none →
      (∀ m ∈ attempts, m.message.Shows) ∧
      ((∀ d ∈ r.targets s,
          (∀ c ∈ r.conditions, Expr.condition c (bindingsAt s o base d) = .ok true) →
            ¬ (r.sendingTo s o base d).message.Shows) →
        attempts = [])) := by
  intro p attempts
  refine ⟨?_, fun m => mem_sendingsOf_iff, ?_, ?_⟩
  · intro platform
    exact congrArg Recorder.calls (platform.platform_carryOut p)
  · intro m attempted
    obtain ⟨_, d, _, rfl, _, shown⟩ := mem_sendingsOf_iff.mp attempted
    refine ⟨Render.Scope.shows_render_iff, ?_⟩
    intro blank
    exact Render.Scope.message_eq_of_not_shows (shown.resolve_left blank) blank
  · intro plain
    have shows : ∀ m ∈ attempts, m.message.Shows := by
      intro m attempted
      obtain ⟨_, d, _, rfl, _, shown⟩ := mem_sendingsOf_iff.mp attempted
      exact shown.resolve_right fun some => some plain
    refine ⟨shows, ?_⟩
    intro blank
    apply List.eq_nil_iff_forall_not_mem.mpr
    intro m attempted
    obtain ⟨_, d, there, rfl, pass, _⟩ := mem_sendingsOf_iff.mp attempted
    exact blank d there pass (shows _ attempted)

/-- The title of an embed is the world of an actor that is not there, and the embed is sent. -/
theorem blank_embed_sent :
    let r : AlertRule :=
      { triggers := [.category "PlayerJoinEvent"], destinations := .single "staff"
        template := { embed := some { title := some "\x7bworld\x7d" } } }
    let s : Surroundings :=
      { directory := { channels := [{ id := "1", name := "staff" }] }
        environment := { tickRate := 20 } }
    let attempts := Outbox.sendingsOf (r.prepare s [.category "PlayerJoinEvent"]
      { category := "PlayerJoinEvent" } { category := "PlayerJoinEvent" })
    attempts.length = 1 ∧ ∀ m ∈ attempts, ¬ m.message.Shows := by
  intro r s attempts
  have sent : attempts =
      [{ destination := { id := "1", name := "staff" }, message := { embed := some {} } }] := by
    decide +kernel
  refine ⟨by rw [sent]; rfl, ?_⟩
  rw [sent]
  intro m attempted
  rw [List.mem_singleton.mp attempted]
  rintro (⟨text, there, _⟩ | ⟨e, there, shows⟩)
  · cases there
  · obtain rfl := Option.some.inj there
    exact Embed.shows_iff.mp shows rfl

end AlertRule

end EventAlerts
