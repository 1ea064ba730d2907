/-
  EventAlerts/Proofs/Render/Sender.lean
  =====================================
  **The name that a message is sent under** — which of the three names it is, and what can be
  in it.

  The name is filled in like any text: one that is configured, or else `{botname}`, which
  stands for the program's own name.  If nothing comes out of it, the program's own name is
  taken as it is.  So two ways lead to the program's own name, and only one of them is
  sanitized: a mention of everyone can be in the name by the other one, and by no way else
  (`mentions_name_iff`).  The name is empty if both are, which the name of the account does
  not prevent if there is an empty nickname (`name_eq_empty_iff`).
-/
import EventAlerts.Proofs.Render.Mentions
import EventAlerts.Proofs.Render.Placing
import EventAlerts.Proofs.Render.Segmentation

namespace EventAlerts.Render

/-- Whether a text mentions everyone. -/
def MentionsEveryone (text : String) : Prop :=
  ∃ mention ∈ ["@everyone", "@here"], mention.toList <:+: text.toList

instance (text : String) : Decidable (MentionsEveryone text) :=
  inferInstanceAs (Decidable (∃ mention ∈ ["@everyone", "@here"], mention.toList <:+: text.toList))

theorem not_mentionsEveryone_sanitize (text : String) : ¬ MentionsEveryone (sanitize text) := by
  rintro ⟨mention, listed, occurs⟩
  have mentions : ["@everyone", "@here"] = massMentions.map ("@" ++ ·) := rfl
  rw [mentions] at listed
  obtain ⟨word, member, rfl⟩ := List.mem_map.mp listed
  have letters : ("@" ++ word).toList = '@' :: word.toList := by simp
  rw [letters] at occurs
  exact not_infix_sanitize text word member occurs

namespace Scope

variable {s : Scope} {w : WebhookTemplate}

/-- What comes out of the name that is configured, or else of `{botname}`. -/
def givenName (s : Scope) (w : WebhookTemplate) : String :=
  s.text false (w.name.getD "\x7bbotname\x7d")

theorem name_sender (s : Scope) (w : WebhookTemplate) :
    (s.sender w).name = if s.givenName w = "" then s.bot.effectiveName else s.givenName w := by
  have same : s.text? false (some (w.name.getD defaultSenderName)) =
      (some (s.givenName w)).filter fun t => !t.isEmpty := rfl
  by_cases empty : s.givenName w = ""
  · simp [sender, same, empty, Option.filter]
  · simp [sender, same, empty, Option.filter]

theorem interpolate_of_plain {raw : String} (plain : segments raw.toList = raw.toList.map .plain)
    (bindings : Expr.Bindings) : interpolate raw bindings = raw := by
  rw [interpolate, plain, render_plain, String.ofList_toList]

/-- Without a name that is configured, the program's own name is filled in and sanitized. -/
theorem givenName_of_none (unnamed : w.name = none) :
    s.givenName w = sanitize (s.environment.expand s.actor
      (s.directory.translateEmotes s.bot.effectiveName)) := by
  have plain : interpolate "\x7bbotname\x7d" s.bindings = "\x7bbotname\x7d" :=
    interpolate_of_plain (by decide +kernel) s.bindings
  have own : substitute (s.placeholders false) "\x7bbotname\x7d" = s.bot.effectiveName := by
    have value : placeholderValue? (s.placeholders false) "botname" = some s.bot.effectiveName := rfl
    have placed := substitute_of_value value "" ""
    simpa [substitute] using placed
  rw [givenName, unnamed, Option.getD_none, text, plain, own]

theorem of_mem_avatarUrl {url : String} (there : url ∈ (s.sender w).avatarUrl) :
    ¬ MentionsEveryone url ∧ url ≠ "" := by
  simp only [sender] at there
  obtain ⟨⟨filled, same⟩, some⟩ := of_mem_text? there
  refine ⟨?_, some⟩
  rw [same]
  exact not_mentionsEveryone_sanitize filled

theorem not_mentionsEveryone_givenName (s : Scope) (w : WebhookTemplate) :
    ¬ MentionsEveryone (s.givenName w) :=
  not_mentionsEveryone_sanitize _

theorem mentions_name_iff : MentionsEveryone (s.sender w).name ↔
    s.givenName w = "" ∧ MentionsEveryone s.bot.effectiveName := by
  rw [name_sender]
  split
  · rename_i none
    simp [none]
  · rename_i some
    exact iff_of_false (s.not_mentionsEveryone_givenName w) fun both => some both.1

theorem name_eq_empty_iff :
    (s.sender w).name = "" ↔ s.givenName w = "" ∧ s.bot.effectiveName = "" := by
  rw [name_sender]
  split
  · rename_i none
    simp [none]
  · rename_i some
    simp [some]

theorem effectiveName_eq_empty_iff {b : BotIdentity} :
    b.effectiveName = "" ↔ b.nickname = some "" ∨ b.nickname = none ∧ b.name = "" := by
  cases nickname : b.nickname <;> simp [BotIdentity.effectiveName, nickname]

/-- What a message is sent under, and what can be in it.

    The address of the picture mentions nobody.  The name is what comes out of the given one,
    which mentions nobody either, and which is the program's own name, filled in and sanitized,
    if none is configured.  If nothing comes out of it, the name is the program's own as it is.
    So the name mentions everyone exactly if this happens and the program's own name does; and
    it is empty exactly if this happens and there is an empty nickname, or no nickname and an
    empty name. -/
theorem sender_by_source (s : Scope) (t : MessageTemplate) (w : WebhookTemplate)
    (enabled : t.identity = some w) :
    ∃ sender, (s.render t).identity = some sender ∧
      (∀ url, sender.avatarUrl = some url → ¬ MentionsEveryone url ∧ url ≠ "") ∧
      sender.name = (if s.givenName w = "" then s.bot.effectiveName else s.givenName w) ∧
      ¬ MentionsEveryone (s.givenName w) ∧
      (w.name = none → s.givenName w = sanitize (s.environment.expand s.actor
        (s.directory.translateEmotes s.bot.effectiveName))) ∧
      (MentionsEveryone sender.name ↔
        s.givenName w = "" ∧ MentionsEveryone s.bot.effectiveName) ∧
      (sender.name = "" ↔ s.givenName w = "" ∧
        (s.bot.nickname = some "" ∨ s.bot.nickname = none ∧ s.bot.name = "")) := by
  refine ⟨s.sender w, ?_, ?_, s.name_sender w, s.not_mentionsEveryone_givenName w,
    givenName_of_none, mentions_name_iff, ?_⟩
  · rw [render, enabled, Option.map_some]
  · exact fun url there => of_mem_avatarUrl there
  · rw [name_eq_empty_iff, effectiveName_eq_empty_iff]

/-- Without an actor, nothing comes out of the actor's name. -/
theorem sender_by_source_of_no_actor :
    let s : Scope :=
      { bindings := [], bot := { name := "Beacon" }, environment := { tickRate := 20 } }
    let w : WebhookTemplate := { name := some "\x7bname\x7d" }
    let t : MessageTemplate := { webhook := some w }
    t.identity = some w ∧ ∃ sender, (s.render t).identity = some sender ∧
      sender.name = "Beacon" ∧ ¬ MentionsEveryone sender.name := by
  intro s w t
  have enabled : t.identity = some w := rfl
  have none : s.givenName w = "" := by
    subst s w
    decide +kernel
  have own : s.bot.effectiveName = "Beacon" := rfl
  refine ⟨enabled, (sender_by_source s t w enabled).imp fun sender sent => ?_⟩
  have named : sender.name = "Beacon" := by
    rw [sent.2.2.1, if_pos none, own]
  refine ⟨sent.1, named, ?_⟩
  rw [named]
  decide +kernel

/-- The program's own name mentions everyone where it stands for a name that came out empty, and
    not where it is filled in; and an empty nickname leaves no name. -/
theorem everyone_by_own_name :
    let s (bot : BotIdentity) : Scope :=
      { bindings := [], bot := bot, environment := { tickRate := 20 } }
    let world : MessageTemplate := { webhook := some { name := some "\x7bworld\x7d" } }
    let unnamed : MessageTemplate := { webhook := some {} }
    ((s { name := "@everyone" }).render world).identity = some { name := "@everyone" } ∧
      MentionsEveryone "@everyone" ∧
      ((s { name := "@everyone" }).render unnamed).identity =
        some { name := "@\u200beveryone" } ∧
      stripColorCodes "Beacon" = "Beacon" ∧
      ((s { name := "Beacon", nickname := some "" }).render unnamed).identity =
        some { name := "" } := by
  refine ⟨?_, ?_, ?_, ?_, ?_⟩ <;> decide +kernel

end Scope

end EventAlerts.Render
