import BlogOperator.Http.Api
import BlogOperator.Reconcile.Pass

/-!
# Notices as objects

A `Recorder` makes notices known by writing event objects to the cluster. The first notice of its
kind is created; while it is remembered, a repeated one only counts it up, keeping the note that it
had first. A notice that could not be written is not remembered. Events are forgotten six minutes
after they were last written. A failure to write is put into the log and goes no further.
-/

set_option autoImplicit false

namespace BlogOperator.Http

open BlogOperator.Json BlogOperator.Kubernetes BlogOperator.Time

/-- How often an event has been repeated, and when last. -/
structure EventSeries where
  count : Int32
  lastObserved : Instant
  deriving DecidableEq, Repr

/-- An event as it is remembered. -/
structure Event where
  notice : Notice
  name : String
  time : Instant
  series : Option EventSeries := none
  deriving DecidableEq, Repr

/-- What makes known the notices of one controller. -/
structure Recorder where
  controller : String
  /-- The name of the controller's pod. -/
  instanceName : Option String
  known : List Event := []
  deriving Repr

/-- Whether two notices are of one series: they differ in nothing but their notes. -/
def Event.repeats (event : Event) (notice : Notice) : Bool :=
  { event.notice with note := notice.note } == notice

/-- When an event was last written. -/
def Event.lastWritten (event : Event) : Instant :=
  (event.series.map EventSeries.lastObserved).getD event.time

/-- How long an event is remembered after it was last written, in nanoseconds. -/
def rememberedFor : Int := 360 * nanosPerSecond

namespace Recorder

/-- The number that ends the name of an event made at an instant. -/
def nameNumber (now : Instant) : Int :=
  let nanos := now.nanosFromEpoch
  if -9223372036854775808 ≤ nanos && nanos ≤ 9223372036854775807 then nanos else now.seconds

/-- The recorder without the events that are too old to be counted up. -/
def refreshed (recorder : Recorder) (now : Instant) : Recorder :=
  { recorder with
    known := recorder.known.filter fun event ↦
      now.nanosFromEpoch < event.lastWritten.nanosFromEpoch + rememberedFor }

/-- The event that a notice becomes: a known one counted up, or a new one. -/
def eventOf (recorder : Recorder) (now : Instant) (notice : Notice) : Event :=
  match recorder.known.find? fun event ↦ event.repeats notice with
  | some event =>
    { event with
      series := some ⟨(event.series.map fun series ↦ series.count + 1).getD 2, now⟩ }
  | none =>
    { notice
      name := s!"{notice.regarding.name.getD recorder.controller}.{nameNumber now}"
      time := now }

/-- An event as it is written. -/
def writeEvent (recorder : Recorder) (event : Event) : Json :=
  let notice := event.notice
  Json.record ([
    ("apiVersion", .text "events.k8s.io/v1"),
    ("kind", .text "Event"),
    ("metadata", Metadata.write
      { name := some event.name, namespaceName := notice.regarding.namespaceName }),
    ("eventTime", .text event.time.microText),
    ("type", .text notice.kind.name),
    ("reason", .text notice.reason),
    ("action", .text notice.action),
    ("regarding", notice.regarding.write),
    ("reportingController", .text recorder.controller),
    ("reportingInstance", .text (recorder.instanceName.getD recorder.controller))] ++
    Json.optional "note" .text notice.note ++
    Json.optional "series" (fun series ↦ Json.record [
      ("count", Json.integer series.count.toInt),
      ("lastObservedTime", .text series.lastObserved.microText)]) event.series)

/-- Events of a namespace, those about objects without one being kept in the namespace `default`. -/
def events (notice : Notice) : Collection :=
  ⟨"apis/events.k8s.io/v1", notice.regarding.namespaceName.getD "default", "events"⟩

/-- The request that writes an event. -/
def requestOf (recorder : Recorder) (event : Event) : Except RequestFault Request :=
  let written := recorder.writeEvent event
  if event.series.isSome then patchRequest (events event.notice) event.name "" written
  else postRequest (events event.notice) written

/-- How often something has been noticed, and when it was for the last time, which must be there. -/
def seriesForm : Form Json :=
  .firmShape "EventSeries" ⟨"lastObservedTime", microForm, none⟩ [.requiredCount "count"]

/-- An event as the cluster gives it back. -/
def eventForm : Form Unit :=
  .schema "Event" ([
    .constant "apiVersion" "events.k8s.io/v1", .constant "kind" "Event",
    .optional "metadata" Metadata.form fun _ checked ↦ checked,
    .optional "regarding" ObjectReference.form fun _ checked ↦ checked,
    .optional "related" ObjectReference.form fun _ checked ↦ checked] ++
    [Property.text "action", .count "deprecatedCount",
      timeProperty "deprecatedFirstTimestamp", timeProperty "deprecatedLastTimestamp",
      .shape "deprecatedSource" "EventSource" [.text "component", .text "host"],
      ⟨"eventTime", microForm, none⟩, .text "note", .text "reason", .text "reportingController",
      .text "reportingInstance", .one "series" seriesForm, .text "type"].map
        (Property.slot fun _ checked ↦ checked))
    ()

/-- What the log says about a notice that could not be made known. -/
def lostLine (notice : Notice) (failure : ApiFailure) : LogLine where
  level := .warn
  message := "Failed to publish event"
  fields := [
    ("reason", .text notice.reason), ("action", .text notice.action),
    ("error", .text failure.message)]

/-- Makes a notice known. -/
def publish {σ : Type} (recorder : Recorder) (transport : Transport σ) (now : Instant)
    (notice : Notice) (state : σ) : List LogLine × Recorder × σ :=
  let recorder := recorder.refreshed now
  let event := recorder.eventOf now notice
  match exchange transport (recorder.requestOf event) (readObject eventForm) state with
  | (.error failure, state) => ([lostLine notice failure], recorder, state)
  | (.ok (), state) =>
    let others := recorder.known.filter fun known ↦ !known.repeats notice
    ([], { recorder with known := event :: others }, state)

end Recorder

/-! ### Passes over the wire -/

/-- A server that is reached over a transport, and the recorder of the notices sent to it. -/
structure Session (σ : Type) where
  recorder : Recorder
  server : σ

/-- Passes run against a server, notices being made known there at the instant `now`. -/
def environment {σ : Type} (transport : Transport σ) (now : Instant) :
    Environment (Session σ) where
  answer call session :=
    let (reply, server) := answer transport call session.server
    (reply, { session with server })
  publish notice session :=
    let (lines, recorder, server) :=
      session.recorder.publish transport now notice session.server
    (lines, ⟨recorder, server⟩)

end BlogOperator.Http
