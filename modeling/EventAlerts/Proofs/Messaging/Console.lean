/-
  EventAlerts/Proofs/Messaging/Console.lean
  =========================================
  **The console's stream** — what a console that can write has written after any deliveries.

  A delivery is refused exactly if its channel is not in the directory, and leaves nothing in the
  stream.  Every other one adds one line, whatever characters its texts have: a string escapes
  its line breaks, and a line feed that ends a line is the only one in it.  So the lines of the
  stream, which anyone can find by its line feeds, tell the deliveries in their order.
-/
import EventAlerts.Proofs.Messaging.Reading

namespace EventAlerts

open EventAlerts.Text (bytes ofBytes? lineFeed ofBytes?_bytes splitOn_bytes_join)

namespace Sending

/-- The delivery that a line of bytes tells. -/
def ofLine? (line : List UInt8) : Option Sending :=
  ((ofBytes? line).bind Json.parse?).bind read?

variable {s : Sending}

theorem parse?_line (colored : s.message.IsColored) :
    (ofBytes? (bytes s.line)).bind Json.parse? = some s.toJson := by
  rw [ofBytes?_bytes, Option.bind_some, line, Json.parse?_compact (isExact_toJson colored)]

/-- The line of a delivery tells it. -/
theorem ofLine?_line (colored : s.message.IsColored) : ofLine? (bytes s.line) = some s := by
  rw [ofLine?, parse?_line colored, Option.bind_some, read?_toJson colored]

end Sending

namespace Console

/-- The bytes in the sink. -/
def sink (c : Console) : List UInt8 := bytes c.text

/-- The answers to deliveries made one after the other, and the console after them.  A refused
    delivery leaves the console as it is. -/
def sendAll (c : Console) : List Sending → List (Except DeliveryError Unit) × Console
  | [] => ([], c)
  | s :: later =>
    match c.send s with
    | .ok next =>
      let (answers, last) := next.sendAll later
      (.ok () :: answers, last)
    | .error e =>
      let (answers, last) := c.sendAll later
      (.error e :: answers, last)

/-- Whether a delivery goes to a channel of the directory. -/
def Reaches (d : Directory) (s : Sending) : Prop := ∃ c ∈ d.channels, c.id = s.destination.id

instance (d : Directory) (s : Sending) : Decidable (Reaches d s) :=
  inferInstanceAs (Decidable (∃ c ∈ d.channels, c.id = s.destination.id))

/-- The answer to a delivery when the sink can be written to. -/
def answer (d : Directory) (s : Sending) : Except DeliveryError Unit :=
  if Reaches d s then .ok () else .error (.unavailable s.destination.id)

/-- The deliveries among some that reach a channel. -/
def delivered (d : Directory) (deliveries : List Sending) : List Sending :=
  deliveries.filter fun s => Reaches d s

theorem isSome_channelById?_iff (d : Directory) (s : Sending) :
    (d.channelById? s.destination.id).isSome = true ↔ Reaches d s := by
  simp [Directory.channelById?, Reaches]

variable {c : Console} {s : Sending}

theorem send_of_reaches (works : c.broken = none) (reaches : Reaches c.directory s) :
    c.send s = .ok { c with lines := c.lines ++ [s.line] } := by
  obtain ⟨channel, found⟩ :=
    Option.isSome_iff_exists.mp ((isSome_channelById?_iff c.directory s).mpr reaches)
  rw [send, found, works]

theorem send_of_not_reaches (refused : ¬ Reaches c.directory s) :
    c.send s = .error (.unavailable s.destination.id) := by
  rw [← isSome_channelById?_iff, Option.not_isSome_iff_eq_none] at refused
  rw [send, refused]

/-- Each delivery is answered for itself, and the lines of those that succeed are added. -/
theorem sendAll_eq (works : c.broken = none) (deliveries : List Sending) :
    c.sendAll deliveries =
      (deliveries.map (answer c.directory),
        { c with lines := c.lines ++ (delivered c.directory deliveries).map Sending.line }) := by
  induction deliveries generalizing c with
  | nil => simp [sendAll, delivered]
  | cons s later ih =>
    by_cases reaches : Reaches c.directory s
    · have rest := ih (c := { c with lines := c.lines ++ [s.line] }) works
      rw [sendAll, send_of_reaches works reaches]
      simp only [rest]
      simp [answer, delivered, reaches]
    · rw [sendAll, send_of_not_reaches reaches]
      simp only [ih works]
      simp [answer, delivered, reaches]

/-- The lines in the sink, up to its end, are those of the deliveries that reach a channel. -/
theorem splitOn_sink (d : Directory) {deliveries : List Sending}
    (colored : ∀ s ∈ deliveries, s.message.IsColored) :
    (({ directory := d } : Console).sendAll deliveries).2.sink.splitOn lineFeed =
      (delivered d deliveries).map (fun s => bytes s.line) ++ [[]] := by
  have oneLine : ∀ line ∈ (delivered d deliveries).map Sending.line,
      Text.OnOneLine line.toList := by
    intro line listed
    obtain ⟨s, member, rfl⟩ := List.mem_map.mp listed
    exact Json.onOneLine_written s.toJson
      (Sending.isExact_toJson (colored s (List.mem_of_mem_filter member)))
  rw [sendAll_eq rfl, sink, text, List.nil_append, splitOn_bytes_join oneLine, List.map_map]
  rfl

/-- The stream of a console that can write: its lines are the deliveries that were answered
    with success, in their order, and each tells its delivery as it was. -/
theorem stream_after_deliveries (d : Directory) (deliveries : List Sending)
    (colored : ∀ s ∈ deliveries, s.message.IsColored) :
    let made (deliveries : List Sending) := ({ directory := d } : Console).sendAll deliveries
    (made deliveries).1 = deliveries.map (answer d) ∧
      (∀ before s after, deliveries = before ++ s :: after → ¬ Reaches d s →
        (made (before ++ [s])).2.sink = (made before).2.sink) ∧
      ∃ lines, (made deliveries).2.sink.splitOn lineFeed = lines ++ [[]] ∧
        lines.map (fun line => (ofBytes? line).bind Json.parse?) =
          (delivered d deliveries).map (fun s => some s.toJson) ∧
        lines.map Sending.ofLine? = (delivered d deliveries).map some := by
  intro made
  refine ⟨?answers, ?refused, (delivered d deliveries).map (fun s => bytes s.line), ?split,
    ?parsed, ?told⟩
  case answers => exact congrArg Prod.fst (sendAll_eq rfl deliveries)
  case refused =>
    intro before s _ _ refused
    have none : delivered d (before ++ [s]) = delivered d before := by
      simp [delivered, refused]
    simp only [made]
    rw [sendAll_eq rfl, sendAll_eq rfl, none]
  case split => exact splitOn_sink d colored
  case parsed =>
    rw [List.map_map]
    refine List.map_congr_left fun s member => ?_
    exact Sending.parse?_line (colored s (List.mem_of_mem_filter member))
  case told =>
    rw [List.map_map]
    refine List.map_congr_left fun s member => ?_
    exact Sending.ofLine?_line (colored s (List.mem_of_mem_filter member))

/-- One of three deliveries is refused; the texts of the others have all that could break a line. -/
theorem stream_after_deliveries_of_hostile_texts :
    let staff : Destination := { id := "42", name := "st\naff", guild := some "\"" }
    let plain : Sending := { destination := staff, message := .ofText "a\n\\b\x00\x7f\u2028" }
    let gone : Sending := { destination := { id := "9", name := "gone" }, message := .ofText "x" }
    let boxed : Sending :=
      { destination := { id := "42", name := "" }
        identity := some { name := "Steve\r\n" }
        message := { embed := some {
          color := some EmbedColor.maxNumber
          fields := [{ name := "", value := "\u2603" }]
          timestamp := some { nanos := -1 } } } }
    (∀ s ∈ [plain, gone, boxed], s.message.IsColored) ∧
      ∃ lines, (({ directory := { channels := [staff] } } : Console).sendAll
          [plain, gone, boxed]).2.sink.splitOn lineFeed = lines ++ [[]] ∧
        lines.map Sending.ofLine? = [some plain, some boxed] := by
  intro staff plain gone boxed
  have colored : ∀ s ∈ [plain, gone, boxed], s.message.IsColored := by decide
  obtain ⟨-, -, lines, split, -, told⟩ :=
    stream_after_deliveries { channels := [staff] } [plain, gone, boxed] colored
  exact ⟨colored, lines, split, told⟩

end Console

end EventAlerts
