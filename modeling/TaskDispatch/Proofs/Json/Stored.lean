import TaskDispatch.Config
import TaskDispatch.Proofs.Json.Derived
import TaskDispatch.Proofs.Task.IdText
import TaskDispatch.Queue.Counts
import TaskDispatch.Task.Message

/-!
# The stored types survive their JSON text

Messages and settings have derived codecs, and counts are records of numbers that are read back, so
each is read back itself. `stored_types_survive` puts together what follows for whole texts: decoding
gives the value that was written, and different values have different texts. Counts are numbers
without a bound here, so they have to fit machine words.
-/

namespace TaskDispatch

set_option autoImplicit false

open Json

theorem TaskId.codec_derived : TaskId.codec.Derived := .parsedString TaskId.parse_text

/-! ## Messages -/

namespace TaskMessage

def errorMember : Option String → List Bytes
  | none => []
  | some content => [writeString "error_msg" ++ Ascii.colon :: writeString content]

/-- Only a message without an error text leaves the member out. -/
theorem written_with_error (message : TaskMessage) :
    ∃ members : List Bytes, members.length = 6 ∧
      ∀ error : Option String,
        codec.write { message with errorMessage := error } =
          Ascii.openBrace :: (Codec.joinItems (members ++ errorMember error) ++
            [Ascii.closeBrace]) := by
  refine ⟨[writeString "id" ++ Ascii.colon :: TaskId.codec.write message.id,
    writeString "task_type" ++ Ascii.colon :: Codec.string.write message.taskType,
    writeString "payload" ++ Ascii.colon :: (Codec.list .byte).write message.payload,
    writeString "queue" ++ Ascii.colon :: Codec.string.write message.queue,
    writeString "retry" ++ Ascii.colon :: Codec.word32.write message.retry,
    writeString "retried" ++ Ascii.colon :: Codec.word32.write message.retried], rfl, ?_⟩
  intro error
  cases error with
  | none => simp only [codec, Codec.record, fields, Fields.writeMembers, Presence.skips,
      Option.isNone_none, Bool.false_eq_true, if_false, if_true, errorMember, List.append_nil]
  | some content => simp only [codec, Codec.record, fields, Fields.writeMembers, Presence.skips,
      Option.isNone_some, Bool.false_eq_true, if_false, errorMember, List.cons_append, List.nil_append,
      Codec.optional, Codec.string]

/-- The error text is left out only if there is none. -/
theorem error_absent (error : Option String)
    (skipped : (Presence.omitted none Option.isNone).skips error = true) :
    (Presence.omitted none Option.isNone).inObject = some error := by
  rw [Option.isNone_iff_eq_none.mp skipped]
  rfl

theorem codec_derived : codec.Derived := by
  refine .record ?_ (by decide) fun _ => rfl
  exact
    .written TaskId.codec_derived (fun _ => rfl) <|
    .written .string (fun _ => rfl) <|
    .written (.list Codec.byte_derived) (fun _ => rfl) <|
    .written .string (fun _ => rfl) <|
    .written Codec.word32_derived (fun _ => rfl) <|
    .written Codec.word32_derived (fun _ => rfl) <|
    .cons Codec.optional_string_derived error_absent .nil

/-- Every message is read back. -/
theorem codec_faithful (message : TaskMessage) : codec.Faithful message :=
  codec_derived.faithful message

end TaskMessage

/-! ## Settings -/

namespace Duration

theorem parts_join (duration : Duration) :
    ofParts? (UInt64.ofNat duration.seconds) (UInt32.ofNat duration.subsecond) =
      some duration := by
  have inRange := duration.inRange
  have seconds : duration.seconds < 2 ^ 64 := by
    have limit : durationLimit = 2 ^ 64 * nanosPerSecond := rfl
    rw [limit] at inRange
    exact (Nat.div_lt_iff_lt_mul (by decide)).mpr inRange
  have subsecond : duration.subsecond < 2 ^ 32 :=
    Nat.lt_trans (Nat.mod_lt duration.nanos (by decide)) (by decide)
  have whole : duration.seconds * nanosPerSecond + duration.subsecond = duration.nanos := by
    rw [Nat.mul_comm]
    exact Nat.div_add_mod duration.nanos nanosPerSecond
  unfold ofParts? ofNanos?
  rw [UInt64.toNat_ofNat', UInt32.toNat_ofNat', Nat.mod_eq_of_lt seconds,
    Nat.mod_eq_of_lt subsecond]
  simp only [whole, inRange, dif_pos]

theorem codec_derived : codec.Derived := by
  refine .record ?_ (by decide) fun duration => ?_
  · exact .written Codec.word64_derived (fun _ => rfl) <|
      .written Codec.word32_derived (fun _ => rfl) .nil
  · have joined := duration.parts_join
    -- The sum of the parts gets a name, so that its large numbers are not computed with.
    obtain ⟨join, same⟩ : ∃ join, join = ofParts? := ⟨_, rfl⟩
    rw [← same] at joined ⊢
    simp only [joined]

end Duration

namespace ProcessorConfig

theorem positive_size_derived : positiveSize.Derived := by
  refine .integer ⟨fun size => natural_fits size.val.toNat_lt, fun size => ?_⟩
  have word : size.val.toNat < Nat.pow 2 64 := size.val.toNat_lt
  have same : UInt64.ofNat size.val.toNat = size.val := UInt64.ofNat_toNat
  rw [Codec.below_bound word]
  simp only [same, size.property, ne_eq, not_false_eq_true, dif_pos]

theorem codec_derived : codec.Derived := by
  refine .record ?_ (by decide) fun _ => rfl
  exact .written positive_size_derived (fun _ => rfl) <|
    .written Duration.codec_derived (fun _ => rfl) .nil

theorem codec_faithful (config : ProcessorConfig) : codec.Faithful config :=
  codec_derived.faithful config

end ProcessorConfig

/-! ## Counts -/

namespace QueueCounts

def FitWords (counts : QueueCounts) : Prop :=
  counts.pending < 2 ^ 64 ∧ counts.inProgress < 2 ^ 64 ∧ counts.scheduled < 2 ^ 64 ∧
    counts.dead < 2 ^ 64 ∧ counts.done < 2 ^ 64

instance (counts : QueueCounts) : Decidable counts.FitWords :=
  inferInstanceAs (Decidable (_ ∧ _))

theorem codec_faithful {counts : QueueCounts} (fit : counts.FitWords) :
    codec.Faithful counts := by
  obtain ⟨pending, inProgress, scheduled, dead, done⟩ := fit
  apply Codec.record_faithful
  · decide
  · have size (count : UInt64) := Codec.size_derived.faithful count
    exact ⟨size _, size _, size _, size _, size _, trivial⟩
  · simp only [UInt64.toNat_ofNat', Nat.mod_eq_of_lt pending, Nat.mod_eq_of_lt inProgress,
      Nat.mod_eq_of_lt scheduled, Nat.mod_eq_of_lt dead, Nat.mod_eq_of_lt done]

end QueueCounts

/-- The JSON text of a message, of settings or of counts decodes to the value it was written for, so
different values have different texts. A message without an error text is written with one member
less than others; an error text that is there is kept, also if it is empty. -/
theorem stored_types_survive :
    ((∀ message : TaskMessage,
          TaskMessage.codec.decode (Bytes.ofText (TaskMessage.codec.text message)) =
            .ok message) ∧
        (∀ config : ProcessorConfig,
          ProcessorConfig.codec.decode (Bytes.ofText (ProcessorConfig.codec.text config)) =
            .ok config) ∧
        ∀ counts : QueueCounts, counts.FitWords →
          QueueCounts.codec.decode (Bytes.ofText (QueueCounts.codec.text counts)) =
            .ok counts) ∧
      (Function.Injective TaskMessage.codec.text ∧ Function.Injective ProcessorConfig.codec.text ∧
        ∀ left right : QueueCounts, left.FitWords → right.FitWords →
          QueueCounts.codec.text left = QueueCounts.codec.text right → left = right) ∧
      ∀ message : TaskMessage,
        (∃ members : List Bytes, members.length = 6 ∧
          ∀ error : Option String,
            Bytes.ofText (TaskMessage.codec.text { message with errorMessage := error }) =
              Ascii.openBrace :: (Codec.joinItems (members ++ TaskMessage.errorMember error) ++
                [Ascii.closeBrace])) ∧
          ∀ error : Option String,
            (TaskMessage.codec.decode (Bytes.ofText
                (TaskMessage.codec.text { message with errorMessage := error }))).map
              TaskMessage.errorMessage = .ok error := by
  refine ⟨⟨?_, ?_, ?_⟩, ⟨?_, ?_, ?_⟩, ?_⟩
  · exact fun message => message.codec_faithful.decode_text
  · exact fun config => config.codec_faithful.decode_text
  · exact fun counts fit => (QueueCounts.codec_faithful fit).decode_text
  · exact fun left right same => left.codec_faithful.eq_of_text_eq right.codec_faithful same
  · exact fun left right same => left.codec_faithful.eq_of_text_eq right.codec_faithful same
  · exact fun left right leftFits rightFits same =>
      (QueueCounts.codec_faithful leftFits).eq_of_text_eq (QueueCounts.codec_faithful rightFits)
        same
  · intro message
    obtain ⟨members, six, written⟩ := message.written_with_error
    refine ⟨⟨members, six, ?_⟩, ?_⟩
    · intro error
      rw [(TaskMessage.codec_faithful _).of_text_text]
      exact written error
    · intro error
      rw [(TaskMessage.codec_faithful _).decode_text]
      rfl

/-- The greatest counts that fit machine words are read back. -/
theorem greatest_counts_survive :
    let greatest := 2 ^ 64 - 1
    let counts : QueueCounts := ⟨greatest, greatest, greatest, greatest, greatest⟩
    counts.FitWords ∧
      QueueCounts.codec.decode (Bytes.ofText (QueueCounts.codec.text counts)) = .ok counts :=
  ⟨by decide, stored_types_survive.1.2.2 _ (by decide)⟩

end TaskDispatch
