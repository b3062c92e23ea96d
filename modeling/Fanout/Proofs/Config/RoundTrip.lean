import Fanout.Config.Forms
import Fanout.Proofs.Config.Faithful
import Fanout.Proofs.SocketAddress.Display

/-!
Configurations are read back from what they are written as. The configurations that can be read are
those in range, and the text of each is read as that configuration, whatever text it came from
(`configs_round_trip`).
-/

namespace Fanout

/-- All numbers have 64 bits. -/
structure PipelineConfig.InRange (c : PipelineConfig) : Prop where
  workerCount : c.workerCount ≤ Number.maxWord
  want : c.want ≤ Number.maxWord
  taskTimeoutMs : c.taskTimeoutMs ≤ Number.maxWord
  tickIntervalMs : c.tickIntervalMs ≤ Number.maxWord
  handoffCapacity : c.handoffCapacity ≤ Number.maxWord

/-- All numbers have 64 bits. -/
structure WorkloadConfig.InRange (c : WorkloadConfig) : Prop where
  taskCount : c.taskCount ≤ Number.maxWord
  minTaskMs : c.minTaskMs ≤ Number.maxWord
  maxTaskMs : c.maxTaskMs ≤ Number.maxWord

/-- All numbers have 64 bits, and the address is one if it is there. -/
structure RunnerConfig.InRange (c : RunnerConfig) : Prop where
  pipeline : c.pipeline.InRange
  workload : c.workload.InRange
  metricsAddress : ∀ a ∈ c.metricsAddress, a.IsValid

open Json.Shape Form Fanout.Field

theorem ShutdownMode.faithful_form : ShutdownMode.form.Faithful fun _ => True where
  sound := fun _ => trivial
  reads := fun {m _} _ => (faithful_choice _ (by decide)).reads (by cases m <;> decide)

theorem SocketAddress.faithful_form :
    SocketAddress.form.Faithful fun a? => ∀ a ∈ a?, SocketAddress.IsValid a :=
  faithful_parsed _ _ isValid_of_parse? parse?_display

theorem faithful_size : size.Faithful fun n => n ≤ Number.maxWord :=
  faithful_natural _

theorem faithful_milliseconds : milliseconds.Faithful fun n => n ≤ Number.maxWord :=
  faithful_natural _

theorem PipelineConfig.faithful_form : PipelineConfig.form.Faithful PipelineConfig.InRange :=
  faithful_record (by constructor <;> decide)
    (keeps_of faithful_size _ _ (fun hn hc => { hc with workerCount := hn }) <|
      keeps_of faithful_size _ _ (fun hn hc => { hc with want := hn }) <|
      keeps_of faithful_milliseconds _ _ (fun hn hc => { hc with taskTimeoutMs := hn }) <|
      keeps_of ShutdownMode.faithful_form _ _ (fun _ hc => { hc with }) <|
      keeps_of faithful_boolean _ _ (fun _ hc => { hc with }) <|
      keeps_of faithful_milliseconds _ _ (fun hn hc => { hc with tickIntervalMs := hn }) <|
      keeps_of faithful_size _ _ (fun hn hc => { hc with handoffCapacity := hn }) keeps_nil)
    (by decide)
    (.cons (readsBack_of faithful_size _ _ (·.workerCount)) <|
      .cons (readsBack_of faithful_size _ _ (·.want)) <|
      .cons (readsBack_of faithful_milliseconds _ _ (·.taskTimeoutMs)) <|
      .cons (readsBack_of ShutdownMode.faithful_form _ _ fun _ => trivial) <|
      .cons (readsBack_of faithful_boolean _ _ fun _ => trivial) <|
      .cons (readsBack_of faithful_milliseconds _ _ (·.tickIntervalMs)) <|
      .cons (readsBack_of faithful_size _ _ (·.handoffCapacity)) .nil) fun _ => rfl

theorem WorkloadConfig.faithful_form : WorkloadConfig.form.Faithful WorkloadConfig.InRange :=
  faithful_record (by constructor <;> decide)
    (keeps_of faithful_size _ _ (fun hn hc => { hc with taskCount := hn }) <|
      keeps_of faithful_milliseconds _ _ (fun hn hc => { hc with minTaskMs := hn }) <|
      keeps_of faithful_milliseconds _ _ (fun hn hc => { hc with maxTaskMs := hn }) keeps_nil)
    (by decide)
    (.cons (readsBack_of faithful_size _ _ (·.taskCount)) <|
      .cons (readsBack_of faithful_milliseconds _ _ (·.minTaskMs)) <|
      .cons (readsBack_of faithful_milliseconds _ _ (·.maxTaskMs)) .nil) fun _ => rfl

theorem RunnerConfig.faithful_form : RunnerConfig.form.Faithful RunnerConfig.InRange :=
  faithful_record
    ⟨by constructor <;> decide, by constructor <;> decide, by decide⟩
    (keeps_of PipelineConfig.faithful_form _ _ (fun hp hc => { hc with pipeline := hp }) <|
      keeps_of WorkloadConfig.faithful_form _ _ (fun hw hc => { hc with workload := hw }) <|
      keeps_of SocketAddress.faithful_form _ _ (fun ha hc => { hc with metricsAddress := ha })
        keeps_nil)
    (by decide)
    (.cons (readsBack_of PipelineConfig.faithful_form _ _ (·.pipeline)) <|
      .cons (readsBack_of WorkloadConfig.faithful_form _ _ (·.workload)) <|
      .cons (readsBack_of SocketAddress.faithful_form _ _ (·.metricsAddress)) .nil) fun _ => rfl

/-- Reads a text and writes what it was read as. -/
def Form.rewrite {α : Type} (form : Form α) (text : String) : Except Json.Fault String :=
  (parse form.shape text).map fun x => (form.json x).compact

/-- The values of a form survive being written and read. -/
structure Form.RoundTrips {α : Type} (form : Form α) (P : α → Prop) : Prop where
  /-- These are the values that a text can be read as. -/
  produced : ∀ x, (∃ text, parse form.shape text = .ok x) ↔ P x
  /-- A value that a text was read as is what its compact text is read as. -/
  reads : ∀ text x, parse form.shape text = .ok x → parse form.shape (form.json x).compact = .ok x
  /-- A text that was written stays the same. -/
  idempotent : ∀ text written, form.rewrite text = .ok written → form.rewrite written = .ok written

theorem Form.Faithful.roundTrips {α : Type} {form : Form α} {P : α → Prop} (h : form.Faithful P) :
    form.RoundTrips P := by
  have hreads : ∀ text x, parse form.shape text = .ok x →
      parse form.shape (form.json x).compact = .ok x :=
    fun text x hx => h.parse_compact (h.of_parse hx)
  refine ⟨fun x => ⟨fun ⟨text, hx⟩ => h.of_parse hx, fun hx => ⟨_, h.parse_compact hx⟩⟩, hreads, ?_⟩
  intro text written hwritten
  cases hx : parse form.shape text with
  | error fault => simp [rewrite, hx, Except.map] at hwritten
  | ok x =>
    simp only [rewrite, hx, Except.map, Except.ok.injEq] at hwritten
    subst hwritten
    simp [rewrite, hreads text x hx, Except.map]

/-- Every configuration is read back from its compact text, be it of a pipeline, of a workload or of
the runner; those that can be read are those in range, and writing what was read changes nothing any
more. -/
theorem configs_round_trip :
    PipelineConfig.form.RoundTrips PipelineConfig.InRange ∧
      WorkloadConfig.form.RoundTrips WorkloadConfig.InRange ∧
      RunnerConfig.form.RoundTrips RunnerConfig.InRange :=
  ⟨PipelineConfig.faithful_form.roundTrips, WorkloadConfig.faithful_form.roundTrips,
    RunnerConfig.faithful_form.roundTrips⟩

end Fanout
