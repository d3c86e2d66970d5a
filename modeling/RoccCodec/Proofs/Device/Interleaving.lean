import RoccCodec.Proofs.Device.Dispatch

namespace RoccCodec

/-!
# Clients that share a device

Several clients may send their requests to one device at the same time, each to
a pipeline of its own.  The commands of one client stay in order, and between
any two of them any commands of the others may arrive.  A tagged trace records
what arrived with the pipeline of its client; what a client sees is the part of
the trace with its tag.

Staged fields and parameters belong to a pipeline, so no client disturbs those
of another.  The codec of a unit belongs to the unit.  A client on a unit with
two codecs is therefore undisturbed exactly as long as nobody chooses the other
codec between its own choice and its start: then what it sees is what it would
see alone, and otherwise its request is stalled (`Interleaves.sees_as_alone`).
Clients on the two decompressors of one unit can come into each other's way
like this (`not_always_undisturbed`); no other clients can.
-/

/-- A request that its channel has accepted, with the commands that send it. -/
structure Client where
  channel : Channel
  request : Request
  word : UInt64
  sequence : List Command
  fits : request.check channel = .ok ()
  sent : channel.commands request word = .ok sequence

/-- What arrived at a shared device, each command with the pipeline of the
client that sent it and with what came of it. -/
abbrev Tagged : Type := List (Pipeline × Command × Outcome)

namespace Tagged

def untagged (tagged : Tagged) : List (Command × Outcome) := tagged.map Prod.snd

/-- What the client on a pipeline sees of the trace. -/
def seenBy (pipeline : Pipeline) (tagged : Tagged) : List (Command × Outcome) :=
  untagged (tagged.filter fun entry => entry.1 = pipeline)

/-- What arrived before the last command of the client on a pipeline. -/
def beforeLast (pipeline : Pipeline) (tagged : Tagged) : Tagged :=
  (tagged.rdropWhile fun entry => entry.1 ≠ pipeline).dropLast

theorem seenBy_append (pipeline : Pipeline) (first second : Tagged) :
    seenBy pipeline (first ++ second) = seenBy pipeline first ++ seenBy pipeline second := by
  simp [seenBy, untagged]

/-- A client that has sent anything has sent a last command. -/
theorem exists_last {pipeline : Pipeline} {tagged : Tagged} (sent : seenBy pipeline tagged ≠ []) :
    ∃ entry after, tagged = tagged.beforeLast pipeline ++ (pipeline, entry) :: after ∧
      seenBy pipeline tagged = seenBy pipeline (tagged.beforeLast pipeline) ++ [entry] := by
  induction tagged using List.reverseRecOn with
  | nil => simp [seenBy, untagged] at sent
  | append_singleton before next hypothesis =>
      rcases next with ⟨tag, entry⟩
      by_cases own : tag = pipeline
      · subst tag
        have here : beforeLast pipeline (before ++ [(pipeline, entry)]) = before := by
          rw [beforeLast, List.rdropWhile_concat_neg _ _ _ (by simp), List.dropLast_concat]
        refine ⟨entry, [], by rw [here], ?_⟩
        rw [here, seenBy_append]
        simp [seenBy, untagged]
      · have earlier : beforeLast pipeline (before ++ [(tag, entry)]) =
            beforeLast pipeline before := by
          rw [beforeLast, List.rdropWhile_concat_pos _ _ _ (by simpa using own), beforeLast]
        have unseen : seenBy pipeline (before ++ [(tag, entry)]) = seenBy pipeline before := by
          simp [seenBy, untagged, own]
        rw [unseen] at sent
        rcases hypothesis sent with ⟨found, after, parts, seen⟩
        refine ⟨found, after ++ [(tag, entry)], ?_, ?_⟩
        · rw [earlier, ← List.cons_append, ← List.append_assoc, ← parts]
        · rw [unseen, earlier, seen]

theorem seenBy_subset (pipeline : Pipeline) (tagged : Tagged) :
    seenBy pipeline tagged ⊆ untagged tagged :=
  List.map_subset _ List.filter_sublist.subset

/-- What the commands of others mean nothing to can be read off what the client
sees. -/
theorem filterMap_seenBy {α : Type} (read : Command → Option α) {pipeline : Pipeline}
    {tagged : Tagged}
    (foreign : ∀ entry ∈ tagged, entry.1 ≠ pipeline → read entry.2.1 = none) :
    (Simulated.Run.commands (untagged tagged)).filterMap read =
      (Simulated.Run.commands (seenBy pipeline tagged)).filterMap read := by
  induction tagged with
  | nil => rfl
  | cons entry rest hypothesis =>
      have later := hypothesis fun other member => foreign other (List.mem_cons_of_mem _ member)
      simp only [Simulated.Run.commands, untagged, seenBy] at later ⊢
      by_cases own : entry.1 = pipeline
      · simp only [List.filter_cons, own, decide_true, if_true, List.map_cons,
          List.filterMap_cons, later]
      · simp only [List.filter_cons, own, decide_false, Bool.false_eq_true, if_false,
          List.map_cons, List.filterMap_cons, foreign entry List.mem_cons_self own, later]

/-- Whatever the clients send in whatever order, a device takes it in. -/
theorem exists_run (first : Simulated) (sent : List (Pipeline × Command)) :
    ∃ (tagged : Tagged) (last : Simulated), Simulated.Run first (untagged tagged) last ∧
      tagged.map (fun entry => (entry.1, entry.2.1)) = sent := by
  induction sent using List.reverseRecOn with
  | nil => exact ⟨[], first, .start, rfl⟩
  | append_singleton before next hypothesis =>
      rcases hypothesis with ⟨tagged, last, run, same⟩
      refine ⟨tagged ++ [(next.1, next.2, last.device.outcome next.2)],
        (last.handle .blank next.2).unit, ?_, ?_⟩
      · rw [untagged, List.map_append]
        exact run.command .blank next.2
      · rw [List.map_append, same]
        rfl

end Tagged

/-- The trace of several clients, each with its accepted request and on a
pipeline of its own. -/
structure Interleaves (build : Build) (clients : List Client) (tagged : Tagged) : Prop where
  built : ∀ client ∈ clients, client.channel.build = build
  distinct : (clients.map fun client => client.channel.pipeline).Nodup
  sent : ∀ client ∈ clients,
    Simulated.Run.commands (tagged.seenBy client.channel.pipeline) = client.sequence
  known : ∀ entry ∈ tagged, ∃ client ∈ clients, client.channel.pipeline = entry.1

namespace Client

def job (client : Client) (device : Device) : Job :=
  client.request.job client.channel.pipeline client.word
    (device.tuning.get client.channel.pipeline)

/-- The request as the client sees it if its last command has the outcome. -/
def trace (client : Client) (outcome : Outcome) : List (Command × Outcome) :=
  (client.sequence.dropLast.map fun command => (command, .quiet)) ++
    client.sequence.getLast?.toList.map fun command => (command, outcome)

/-- If the unit hosts several codecs, the one that was chosen last before the
start of the client is that of the client. -/
def Undisturbed (client : Client) (tagged : Tagged) : Prop :=
  client.channel.table.selectAlgorithm.isSome →
    (client.channel.build.choices client.channel.table.opcode
      (Simulated.Run.commands (tagged.beforeLast client.channel.pipeline).untagged)).getLast? =
        some client.channel.pipeline.algorithm

theorem exists_spells (client : Client) :
    ∃ selects fields last, client.sequence = selects ++ fields ++ [last] ∧
      client.channel.Spells client.request client.word selects fields last :=
  Channel.exists_spells client.sent

/-- The commands of a client mean nothing to other pipelines. -/
theorem own?_eq_none (client : Client) {command : Command} (member : command ∈ client.sequence)
    {pipeline : Pipeline} (other : pipeline ≠ client.channel.pipeline) :
    client.channel.build.own? pipeline command = none := by
  rcases client.exists_spells with ⟨selects, fields, last, parts, spells⟩
  have arrivals := spells.arrivals_closing pipeline
  rw [if_neg other, ← parts] at arrivals
  exact List.filterMap_eq_nil_iff.mp arrivals command member

/-- The commands of a client choose no codec on other units, nor on a unit with
one codec. -/
theorem choice?_eq_none (client : Client) {command : Command} (member : command ∈ client.sequence)
    {slot : Opcode}
    (other : ¬ (slot = client.channel.table.opcode ∧
      client.channel.table.selectAlgorithm.isSome = true)) :
    client.channel.build.choice? slot command = none := by
  rcases client.exists_spells with ⟨selects, fields, last, parts, spells⟩
  have choices := spells.choices_closing slot
  rw [if_neg other, ← parts] at choices
  exact List.filterMap_eq_nil_iff.mp choices command member

theorem trace_of_parts (client : Client) {before : List Command} {closing : Command}
    (parts : client.sequence = before ++ [closing]) (outcome : Outcome) :
    client.trace outcome =
      before.map (fun command => (command, .quiet)) ++ [(closing, outcome)] := by
  simp [trace, parts]

end Client

namespace Interleaves

open Simulated Simulated.Run

variable {build : Build} {clients : List Client} {tagged : Tagged}

/-- The trace of two clients. -/
theorem of_pair {one other : Client} (builtOne : one.channel.build = build)
    (builtOther : other.channel.build = build)
    (distinct : one.channel.pipeline ≠ other.channel.pipeline)
    (sentOne : commands (tagged.seenBy one.channel.pipeline) = one.sequence)
    (sentOther : commands (tagged.seenBy other.channel.pipeline) = other.sequence)
    (known : ∀ entry ∈ tagged,
      entry.1 = one.channel.pipeline ∨ entry.1 = other.channel.pipeline) :
    Interleaves build [one, other] tagged where
  built := by simp [builtOne, builtOther]
  distinct := by simp [distinct]
  sent := by simp [sentOne, sentOther]
  known := by
    intro entry member
    rcases known entry member with own | own <;> simp [own]

/-- Every command of the trace is one of the client with its tag. -/
theorem exists_sender (interleaves : Interleaves build clients tagged)
    {entry : Pipeline × Command × Outcome} (member : entry ∈ tagged) :
    ∃ client ∈ clients, client.channel.pipeline = entry.1 ∧ client.channel.build = build ∧
      entry.2.1 ∈ client.sequence := by
  rcases interleaves.known entry member with ⟨client, known, tag⟩
  refine ⟨client, known, tag, interleaves.built client known, ?_⟩
  rw [← interleaves.sent client known, tag]
  apply List.mem_map_of_mem
  apply List.mem_map_of_mem
  exact List.mem_filter.mpr ⟨member, by simp⟩

/-- What a pipeline received up to some moment is what its client sent. -/
theorem arrivals_seenBy (interleaves : Interleaves build clients tagged) {part : Tagged}
    (before : part ⊆ tagged) (pipeline : Pipeline) :
    build.arrivals pipeline (commands (Tagged.untagged part)) =
      build.arrivals pipeline (commands (part.seenBy pipeline)) := by
  apply Tagged.filterMap_seenBy
  intro entry member foreign
  rcases interleaves.exists_sender (before member) with ⟨sender, _, tag, built, sent⟩
  rw [← built]
  exact sender.own?_eq_none sent (by rw [tag]; exact foreign.symm)

variable {client : Client}

/-- What a client has sent before its last command, which it has also sent. -/
theorem exists_closing (interleaves : Interleaves build clients tagged)
    (member : client ∈ clients) :
    ∃ before closing outcome after,
      tagged = tagged.beforeLast client.channel.pipeline ++
        (client.channel.pipeline, closing, outcome) :: after ∧
      tagged.seenBy client.channel.pipeline =
        (tagged.beforeLast client.channel.pipeline).seenBy client.channel.pipeline ++
          [(closing, outcome)] ∧
      commands ((tagged.beforeLast client.channel.pipeline).seenBy client.channel.pipeline) =
        before ∧
      client.sequence = before ++ [closing] ∧
      ∃ selects fields, before = selects ++ fields ∧
        client.channel.Spells client.request client.word selects fields closing := by
  have sent := interleaves.sent client member
  rcases client.exists_spells with ⟨selects, fields, closing, parts, spells⟩
  have some : tagged.seenBy client.channel.pipeline ≠ [] := by
    intro empty
    rw [empty, parts] at sent
    simp [commands] at sent
  rcases Tagged.exists_last some with ⟨⟨final, outcome⟩, after, split, seen⟩
  rw [seen, parts, commands_append] at sent
  rcases List.append_inj' sent rfl with ⟨before, ends⟩
  cases List.singleton_inj.mp ends
  exact ⟨selects ++ fields, closing, outcome, after, split, seen, before, parts, selects, fields, rfl,
    spells⟩

/-- A client on a unit that no other client sets to a codec is undisturbed. -/
theorem undisturbed_of_alone (interleaves : Interleaves build clients tagged)
    (member : client ∈ clients)
    (alone : ∀ other ∈ clients, other.channel.table.selectAlgorithm.isSome →
      other.channel.table.opcode = client.channel.table.opcode →
        other.channel.pipeline = client.channel.pipeline) :
    client.Undisturbed tagged := by
  intro needed
  rcases interleaves.exists_closing member with ⟨before, closing, outcome, after, split, _, sent,
    _, selects, fields, rfl, spells⟩
  have choices := spells.choices client.channel.table.opcode
  rw [if_pos ⟨rfl, needed⟩, ← sent] at choices
  have seen : client.channel.build.choices client.channel.table.opcode
      (commands (Tagged.untagged (tagged.beforeLast client.channel.pipeline))) =
        [client.channel.pipeline.algorithm] := by
    rw [← choices]
    apply Tagged.filterMap_seenBy
    intro entry member foreign
    have known : entry ∈ tagged := by
      rw [split]
      exact List.mem_append_left _ member
    rcases interleaves.exists_sender known with ⟨sender, listed, tag, built, sent⟩
    rw [interleaves.built client ‹_›, ← built]
    apply sender.choice?_eq_none sent
    rintro ⟨slot, selecting⟩
    exact foreign (tag ▸ alone sender listed selecting slot.symm)
  rw [seen]
  rfl

/-- The choice of a client is never forgotten, so whatever the unit was set to
before has no influence on it. -/
theorem undisturbed_iff (interleaves : Interleaves build clients tagged)
    (member : client ∈ clients) (selected : Option Algorithm) :
    client.Undisturbed tagged ↔
      client.channel.table.selectAlgorithm.isNone ∨
        (client.channel.build.choices client.channel.table.opcode
          (commands (Tagged.untagged (tagged.beforeLast client.channel.pipeline)))).getLast?.or
            selected = some client.channel.pipeline.algorithm := by
  unfold Client.Undisturbed
  cases needed : client.channel.table.selectAlgorithm with
  | none => simp
  | some funct =>
      rcases interleaves.exists_closing member with ⟨before, closing, outcome, after, _, _, sent,
        _, selects, fields, rfl, spells⟩
      have choices := spells.choices client.channel.table.opcode
      rw [if_pos ⟨rfl, by rw [needed]; rfl⟩, ← sent] at choices
      have seen : client.channel.pipeline.algorithm ∈ client.channel.build.choices
          client.channel.table.opcode (commands
            ((tagged.beforeLast client.channel.pipeline).seenBy client.channel.pipeline)) := by
        rw [choices]
        exact List.mem_singleton_self _
      have own := List.filterMap_subset (client.channel.build.choice? client.channel.table.opcode)
        (List.map_subset Prod.fst (Tagged.seenBy_subset client.channel.pipeline
          (tagged.beforeLast client.channel.pipeline))) seen
      change _ ∈ client.channel.build.choices client.channel.table.opcode
        (commands (Tagged.untagged (tagged.beforeLast client.channel.pipeline))) at own
      rw [List.getLast?_eq_getLast_of_ne_nil (List.ne_nil_of_mem own), Option.some_or]
      simp

/-- What a client sees. -/
theorem seenBy_eq {first last : Simulated} (run : Run first (Tagged.untagged tagged) last)
    (interleaves : Interleaves first.device.build clients tagged) (member : client ∈ clients) :
    (client.Undisturbed tagged →
      tagged.seenBy client.channel.pipeline = client.trace (.started (client.job first.device))) ∧
    (¬ client.Undisturbed tagged →
      tagged.seenBy client.channel.pipeline = client.trace .stalled) := by
  have built := (interleaves.built client member).symm
  rcases interleaves.exists_closing member with ⟨before, closing, outcome, after, split, seen, sent,
    parts, selects, fields, rfl, spells⟩
  have earlier : tagged.beforeLast client.channel.pipeline ⊆ tagged := by
    intro entry known
    rw [split]
    exact List.mem_append_left _ known
  -- Everything before the last command is quiet.
  have listed : (tagged.beforeLast client.channel.pipeline).seenBy client.channel.pipeline ⊆
      Tagged.untagged tagged := by
    intro entry known
    exact List.map_subset _ earlier (Tagged.seenBy_subset _ _ known)
  have quiet := run.eq_quiet_of_subset listed (by
    rw [sent, built]
    intro command known pipeline
    exact spells.start?_eq_none client.fits known pipeline)
  -- The last command finds the opening of the request.
  have whole : Tagged.untagged tagged =
      Tagged.untagged (tagged.beforeLast client.channel.pipeline) ++
        (closing, outcome) :: Tagged.untagged after := by
    conv_lhs => rw [split]
    simp [Tagged.untagged]
  rcases run.exists_prefix whole with ⟨middle, reached, became⟩
  have opened := interleaves.arrivals_seenBy earlier client.channel.pipeline
  rw [sent, built, spells.arrivals, if_pos rfl] at opened
  have closes := reached.outcome_of_closing built client.fits opened spells.closing
  rw [← became] at closes
  rw [seen, quiet, sent, client.trace_of_parts parts, client.trace_of_parts parts]
  have judged := interleaves.undisturbed_iff member
    (first.device.selected.get client.channel.table.opcode)
  constructor
  · intro undisturbed
    rw [closes, if_pos (judged.mp undisturbed)]
    rfl
  · intro disturbed
    rw [closes, if_neg (fun chosen => disturbed (judged.mpr chosen))]

/-- Alone on the device, a request is started. -/
theorem trace_alone {first last : Simulated} {trace : List (Command × Outcome)}
    (run : Run first trace last) (built : client.channel.build = first.device.build)
    (same : commands trace = client.sequence) :
    trace = client.trace (.started (client.job first.device)) := by
  let tagged : Tagged := trace.map fun entry => (client.channel.pipeline, entry)
  have untagged : Tagged.untagged tagged = trace := by
    simp [tagged, Tagged.untagged, Function.comp_def]
  have seen : tagged.seenBy client.channel.pipeline = trace := by
    have own : (tagged.filter fun entry => entry.1 = client.channel.pipeline) = tagged := by
      apply List.filter_eq_self.mpr
      intro entry member
      rcases List.mem_map.mp member with ⟨came, _, rfl⟩
      simp
    rw [Tagged.seenBy, own, untagged]
  have interleaves : Interleaves first.device.build [client] tagged := by
    refine ⟨?_, by simp, ?_, ?_⟩
    · intro other member
      rw [List.mem_singleton.mp member, built]
    · intro other member
      rw [List.mem_singleton.mp member, seen, same]
    · intro entry member
      rcases List.mem_map.mp member with ⟨came, _, rfl⟩
      exact ⟨client, List.mem_singleton_self client, rfl⟩
  have undisturbed := interleaves.undisturbed_of_alone (List.mem_singleton_self client)
    fun other member _ _ => by rw [List.mem_singleton.mp member]
  rw [← untagged] at run
  rw [← seen]
  exact (seenBy_eq run interleaves (List.mem_singleton_self client)).1 undisturbed

/-- However the commands of several clients interleave, a client that is
undisturbed sees what it would see alone: its own job is started at its last
command and nothing is stalled.  A client that is disturbed sees its request
stalled.  Only a client of the same unit that chooses a codec can disturb
another one. -/
theorem sees_as_alone {first last : Simulated} (run : Run first (Tagged.untagged tagged) last)
    (interleaves : Interleaves first.device.build clients tagged) (member : client ∈ clients) :
    (∀ trace alone, Run first trace alone → commands trace = client.sequence →
      trace = client.trace (.started (client.job first.device))) ∧
    (client.Undisturbed tagged →
      tagged.seenBy client.channel.pipeline = client.trace (.started (client.job first.device))) ∧
    (¬ client.Undisturbed tagged →
      tagged.seenBy client.channel.pipeline = client.trace .stalled) ∧
    ((∀ other ∈ clients, other.channel.table.selectAlgorithm.isSome →
      other.channel.table.opcode = client.channel.table.opcode →
        other.channel.pipeline = client.channel.pipeline) → client.Undisturbed tagged) := by
  rcases seenBy_eq run interleaves member with ⟨started, stalled⟩
  refine ⟨?_, started, stalled, interleaves.undisturbed_of_alone member⟩
  intro trace alone reached same
  exact trace_alone reached (interleaves.built client member) same

end Interleaves

namespace Client

/-- A client of a Zstd compressor that shares its unit. -/
def zstdCompress : Client where
  channel := ⟨.compressor, .zstdCompress, Build.compressorZstdCompress, rfl⟩
  request := ⟨⟨0x1000, 3⟩, .streams ⟨0x2000, 3⟩ ⟨0x3000, 3⟩, ⟨0x4000, 64⟩, some (-1)⟩
  word := 0x5000
  sequence := [.pair .custom2 1 0x1000 3, .pair .custom2 2 0x2000 3, .pair .custom2 3 0x3000 3,
    .pair .custom2 4 0x4000 0x5000, .single .custom2 5 0xFFFFFFFFFFFFFFFF]
  fits := rfl
  sent := rfl

def snappyCompress : Client where
  channel := ⟨.compressor, .snappyCompress, Build.compressorSnappyCompress, rfl⟩
  request := ⟨⟨0x6000, 5⟩, .none, ⟨0x7000, 64⟩, none⟩
  word := 0x8000
  sequence := [.pair .custom2 6 0x6000 5, .pair .custom2 7 0x7000 0x8000]
  fits := rfl
  sent := rfl

/-- A client of a Zstd decompressor that shares its unit. -/
def zstdDecompress : Client where
  channel := ⟨.decompressor, .zstdDecompress, Build.decompressorZstdDecompress, rfl⟩
  request := ⟨⟨0x1000, 12⟩, .workspace 0x3000, ⟨0x4000, 3⟩, none⟩
  word := 0x5000
  sequence := [.single .custom2 1 0, .pair .custom2 2 0x1000 12, .single .custom2 3 0x3000,
    .pair .custom2 4 0x4000 0x5000]
  fits := rfl
  sent := rfl

def snappyDecompress : Client where
  channel := ⟨.decompressor, .snappyDecompress, Build.decompressorSnappyDecompress, rfl⟩
  request := ⟨⟨0x2000, 5⟩, .none, ⟨0x6000, 3⟩, none⟩
  word := 0x7000
  sequence := [.single .custom2 1 1, .pair .custom2 7 0x2000 5, .pair .custom2 8 0x6000 0x7000]
  fits := rfl
  sent := rfl

end Client

namespace Interleaves

/-- The two compressors of a unit see nothing of each other. -/
theorem sees_as_alone_compressors :
    ∃ (tagged : Tagged) (last : Simulated),
      Simulated.Run (.powerOn .compressor .inline) (Tagged.untagged tagged) last ∧
      tagged.map (fun entry => (entry.1, entry.2.1)) =
        [(.zstdCompress, .pair .custom2 1 0x1000 3), (.snappyCompress, .pair .custom2 6 0x6000 5),
          (.zstdCompress, .pair .custom2 2 0x2000 3), (.zstdCompress, .pair .custom2 3 0x3000 3),
          (.snappyCompress, .pair .custom2 7 0x7000 0x8000),
          (.zstdCompress, .pair .custom2 4 0x4000 0x5000),
          (.zstdCompress, .single .custom2 5 0xFFFFFFFFFFFFFFFF)] ∧
      tagged.seenBy .zstdCompress = Client.zstdCompress.trace (.started
        ⟨.zstdCompress, ⟨0x1000, 3⟩, .streams ⟨0x2000, 3⟩ ⟨0x3000, 3⟩, 0x4000, 0x5000, -1,
          .powerOn⟩) := by
  rcases Tagged.exists_run (.powerOn .compressor .inline)
    [(.zstdCompress, .pair .custom2 1 0x1000 3), (.snappyCompress, .pair .custom2 6 0x6000 5),
      (.zstdCompress, .pair .custom2 2 0x2000 3), (.zstdCompress, .pair .custom2 3 0x3000 3),
      (.snappyCompress, .pair .custom2 7 0x7000 0x8000),
      (.zstdCompress, .pair .custom2 4 0x4000 0x5000),
      (.zstdCompress, .single .custom2 5 0xFFFFFFFFFFFFFFFF)] with ⟨tagged, last, run, same⟩
  refine ⟨tagged, last, run, same, ?_⟩
  simp only [List.map_eq_cons_iff, List.map_eq_nil_iff, Prod.mk.injEq] at same
  rcases same with ⟨⟨_, _, _⟩, _, rfl, ⟨rfl, rfl⟩, ⟨_, _, _⟩, _, rfl, ⟨rfl, rfl⟩,
    ⟨_, _, _⟩, _, rfl, ⟨rfl, rfl⟩, ⟨_, _, _⟩, _, rfl, ⟨rfl, rfl⟩,
    ⟨_, _, _⟩, _, rfl, ⟨rfl, rfl⟩, ⟨_, _, _⟩, _, rfl, ⟨rfl, rfl⟩,
    ⟨_, _, _⟩, _, rfl, ⟨rfl, rfl⟩, rfl⟩
  have member : Client.zstdCompress ∈ [Client.zstdCompress, .snappyCompress] :=
    List.mem_cons_self
  have sees := sees_as_alone run
    (of_pair rfl rfl (by decide) rfl rfl (by simp [Client.zstdCompress, Client.snappyCompress]))
    member
  have undisturbed := sees.2.2.2 (by decide)
  exact sees.2.1 undisturbed

/-- The commands of the two decompressors of a unit, in an order in which the
second client chooses its codec after the first one has chosen. -/
def disturbing : List (Pipeline × Command) :=
  [(.zstdDecompress, .single .custom2 1 0), (.snappyDecompress, .single .custom2 1 1),
    (.zstdDecompress, .pair .custom2 2 0x1000 12), (.snappyDecompress, .pair .custom2 7 0x2000 5),
    (.zstdDecompress, .single .custom2 3 0x3000),
    (.snappyDecompress, .pair .custom2 8 0x6000 0x7000),
    (.zstdDecompress, .pair .custom2 4 0x4000 0x5000)]

theorem of_disturbing {tagged : Tagged}
    (same : tagged.map (fun entry => (entry.1, entry.2.1)) = disturbing) :
    Interleaves .decompressor [.zstdDecompress, .snappyDecompress] tagged ∧
      ¬ Client.zstdDecompress.Undisturbed tagged := by
  simp only [disturbing, List.map_eq_cons_iff, List.map_eq_nil_iff, Prod.mk.injEq] at same
  rcases same with ⟨⟨_, _, _⟩, _, rfl, ⟨rfl, rfl⟩, ⟨_, _, _⟩, _, rfl, ⟨rfl, rfl⟩,
    ⟨_, _, _⟩, _, rfl, ⟨rfl, rfl⟩, ⟨_, _, _⟩, _, rfl, ⟨rfl, rfl⟩,
    ⟨_, _, _⟩, _, rfl, ⟨rfl, rfl⟩, ⟨_, _, _⟩, _, rfl, ⟨rfl, rfl⟩,
    ⟨_, _, _⟩, _, rfl, ⟨rfl, rfl⟩, rfl⟩
  constructor
  · exact of_pair rfl rfl (by decide) rfl rfl
      (by simp [Client.zstdDecompress, Client.snappyDecompress])
  · intro undisturbed
    have chosen := undisturbed rfl
    change some Algorithm.snappy = some .zstd at chosen
    contradiction

/-- The two decompressors of a unit can disturb each other. -/
theorem not_always_undisturbed :
    ¬ ∀ (first last : Simulated) (clients : List Client) (tagged : Tagged),
      Simulated.Run first (Tagged.untagged tagged) last →
      Interleaves first.device.build clients tagged →
      ∀ client ∈ clients, tagged.seenBy client.channel.pipeline =
        client.trace (.started (client.job first.device)) := by
  intro always
  rcases Tagged.exists_run (.powerOn .decompressor .inline) disturbing with
    ⟨tagged, last, run, same⟩
  rcases of_disturbing same with ⟨interleaves, disturbed⟩
  have started := always _ last _ tagged run interleaves .zstdDecompress List.mem_cons_self
  have stalled := (seenBy_eq run interleaves List.mem_cons_self).2 disturbed
  rw [started] at stalled
  cases List.singleton_inj.mp (List.append_inj' stalled rfl).2

end Interleaves

end RoccCodec
