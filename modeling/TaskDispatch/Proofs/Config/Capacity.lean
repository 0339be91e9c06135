import TaskDispatch.Proofs.Config.Variables
import TaskDispatch.Proofs.Json.Stored
import TaskDispatch.Queue.Memory
import TaskDispatch.Worker.Processor

/-!
# Settings that cannot be used

Variables and JSON texts are accepted with every number of tasks at once that is a word and not zero.
A budget of slots has a limit of its own below that, which the settings are not checked against. So a
processor comes of accepted settings exactly if their number is within this limit.
-/

namespace TaskDispatch.ProcessorConfig

set_option autoImplicit false

variable {β : Type}

/-- With these settings a new processor has all its slots free, unless it is to have too many: then
there is no processor. -/
def Serves (config : ProcessorConfig) (failure : FailureHandler Party β) : Prop :=
  (config.concurrency.toNat ≤ slotLimit →
      ∃ processor, Processor.new? config failure = some processor ∧
        processor.crew.slots.capacity = config.concurrency.toNat ∧ processor.inFlight = 0) ∧
    (slotLimit < config.concurrency.toNat → Processor.new? config failure = none)

theorem serves (config : ProcessorConfig) (failure : FailureHandler Party β) :
    config.Serves failure := by
  unfold Serves Processor.new? Crew.new? Slots.new?
  constructor
  · intro within
    rw [if_pos within]
    exact ⟨_, rfl, rfl, Nat.sub_self _⟩
  · intro beyond
    rw [if_neg (Nat.not_le.mpr beyond)]
    rfl

def onlySize (size : Nat) (key : String) : Option String :=
  if key = concurrencyKey then some (spelling 0 size) else none

theorem only_size_found {size : UInt64} (positive : size ≠ 0) :
    ofLookup (onlySize size.toNat) =
      .ok { concurrency := size, positive := positive, dequeueTimeout := .ofSeconds 5 } := by
  have sized : settingOf concurrencyKey defaultSize (onlySize size.toNat concurrencyKey) =
      .ok ⟨size, positive⟩ := by
    rw [onlySize, if_pos rfl]
    exact parse_ok_iff.mpr (writes_spelling 0 size.toNat_lt)
  have timed : onlySize size.toNat timeoutKey = none := if_neg (by decide)
  rw [of_lookup_eq, sized, timed]
  rfl

/-- Of accepted settings, whether they are variables or a JSON text, a processor comes with all its
slots free if their number of tasks at once is within the limit of a budget of slots; and none comes
if it is beyond. Every word other than zero is accepted from both. -/
theorem accepted_settings_serve (failure : FailureHandler Party β) :
    (∀ lookup config, ofLookup lookup = .ok config → config.Serves failure) ∧
      (∀ text config, codec.decode text = .ok config → config.Serves failure) ∧
      ∀ size : UInt64, size ≠ 0 →
        (∃ lookup config, ofLookup lookup = .ok config ∧ config.concurrency = size) ∧
          ∃ text config, codec.decode text = .ok config ∧ config.concurrency = size := by
  refine ⟨fun _ config _ => config.serves failure, fun _ config _ => config.serves failure, ?_⟩
  intro size positive
  refine ⟨⟨onlySize size.toNat, _, only_size_found positive, rfl⟩, ?_⟩
  let config : ProcessorConfig :=
    { concurrency := size, positive := positive, dequeueTimeout := .ofSeconds 5 }
  exact ⟨codec.write config, config, config.codec_faithful.decode_write, rfl⟩

/-- One slot more than there can be. -/
def oversized : ProcessorConfig where
  concurrency := 2305843009213693952
  positive := by decide
  dequeueTimeout := .ofSeconds 5

def oversizedText : String :=
  "\x7b\"concurrency\":2305843009213693952," ++
    "\"dequeue_timeout\":\x7b\"secs\":5,\"nanos\":0\x7d\x7d"

/-- Settings with one slot too many are accepted from a variable and from a JSON text, and there is
no processor with them. -/
theorem oversized_settings_are_accepted :
    ofLookup (fun key => if key = concurrencyKey then some "2305843009213693952" else none) =
        .ok oversized ∧
      codec.decode (Bytes.ofText oversizedText) = .ok oversized ∧
      Processor.new? oversized (RetryPolicy.default.reconcile MemoryQueue.backend) = none :=
  ⟨rfl, rfl, rfl⟩

end TaskDispatch.ProcessorConfig
