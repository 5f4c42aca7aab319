/-
A whole transfer in direct mode.

The files are packed, framed and sent; the packets that arrive before the FIN go
through the receive task, the reassembly task and the writer.  Nothing on the
receiving side looks at the sequence numbers, so what is written depends on the
payloads in order of arrival alone.
-/

import Udpix.Cli.HostileStream
import Udpix.IoEngine.SplitFiles

namespace Udpix.Cli

open Protocol DirectSend IoEngine Packer Assembly AsyncWriter StreamDecoder UnixPath

def sentPackets (tsUs : Nat → UInt64) (files : List (Path × Bytes)) : List Bytes :=
  directPackets tsUs ((packFiles files).map PackBlock.data)

def directReceive (overflowChecks : Bool) (disk : Disk) (outputDir : Path)
    (arrivals : List (UInt64 × Bytes)) : WriterRun :=
  receiveAndWrite overflowChecks disk outputDir
    (Reassembler.run (receivePackets (Receiver.new 1 0) arrivals).dataTx).sent

theorem receivePackets_fin (receiver : Receiver) (session : receiver.sessionId = 1)
    (nowUs : UInt64) (seq : Nat) (tsUs : UInt64) (after : List (UInt64 × Bytes)) :
    (receivePackets receiver ((nowUs, finDatagram seq tsUs) :: after)).dataTx =
      receiver.dataTx := by
  have image : finDatagram seq tsUs =
      (RudpHeader.newFin 1 (UInt64.ofNat seq) tsUs).toBytes ++ [] := by
    unfold finDatagram RudpHeader.writeTo
    rw [List.drop_of_length_le (by rw [List.length_replicate])]
  have notData : (RudpHeader.newFin 1 (UInt64.ofNat seq) tsUs).isData = false := by
    change (Flags.fin &&& Flags.data != 0) = false
    decide
  have notPing : (RudpHeader.newFin 1 (UInt64.ofNat seq) tsUs).isPing = false := by
    change (Flags.fin &&& Flags.ping != 0) = false
    decide
  have notPong : (RudpHeader.newFin 1 (UInt64.ofNat seq) tsUs).isPong = false := by
    change (Flags.fin &&& Flags.pong != 0) = false
    decide
  have isFin : (RudpHeader.newFin 1 (UInt64.ofNat seq) tsUs).isFin = true := by
    change (Flags.fin &&& Flags.fin != 0) = true
    decide
  have handled : receiver.processDatagram nowUs (finDatagram seq tsUs) =
      ((receiver.sendHeartbeatSack nowUs).1, some true) := by
    unfold Receiver.processDatagram
    rw [image, RudpHeader.readFrom_toBytes_append]
    dsimp only
    rw [if_neg (fun differ => differ session.symm), if_neg (Bool.eq_false_iff.mp notData),
      if_neg (Bool.eq_false_iff.mp notPing), if_neg (Bool.eq_false_iff.mp notPong),
      if_pos isFin]
  rw [receivePackets, handled]
  rfl

/-- What the writer gets when the packets before the FIN are a beginning of those
sent, in order. -/
theorem directReceive_eq (overflowChecks : Bool) (disk : Disk) (outputDir : Path)
    (tsUs : Nat → UInt64) (files : List (Path × Bytes)) (packable : Packable files)
    (arrivals after : List (UInt64 × Bytes)) (finUs finTs : UInt64) (finSeq : Nat)
    (inOrder : arrivals.map Prod.snd <+: sentPackets tsUs files) :
    ∃ chunks, chunks <+: (packFiles files).map PackBlock.data ∧
      (arrivals.map Prod.snd = sentPackets tsUs files →
        chunks = (packFiles files).map PackBlock.data) ∧
      directReceive overflowChecks disk outputDir
          (arrivals ++ (finUs, finDatagram finSeq finTs) :: after) =
        receiveAndWrite overflowChecks disk outputDir chunks := by
  obtain ⟨accepted, session, delivered, continues⟩ := dataTx_of_inOrder tsUs _ arrivals
    ((finUs, finDatagram finSeq finTs) :: after) inOrder
  have begins : accepted.dataTx.flatten <+:
      ((packFiles files).map PackBlock.data).flatMap frame := by
    rw [delivered, ← flatten_framedPieces]
    obtain ⟨later, joined⟩ := List.take_prefix arrivals.length
      (framedPieces ((packFiles files).map PackBlock.data))
    refine ⟨later.flatten, ?_⟩
    rw [← List.flatten_append, joined]
  have fits := packable.block_fits
  refine ⟨(Reassembler.run accepted.dataTx).sent,
    (Reassembler.run_prefix _ fits _ begins).1, ?_, ?_⟩
  · intro allArrived
    have count : (framedPieces ((packFiles files).map PackBlock.data)).length =
        arrivals.length := by
      have lengths := congrArg List.length allArrived
      unfold sentPackets at lengths
      rw [directPackets_eq, List.length_map, List.length_map, List.length_zipIdx] at lengths
      exact lengths.symm
    rw [delivered, ← count, List.take_length,
      Reassembler.run_frames _ fits _ (flatten_framedPieces _)]
  · unfold directReceive
    rw [continues, receivePackets_fin accepted session]

/-! ### A network that drops, repeats and reorders -/

/-- Every write is a whole file that was sent, and every file sent is written. -/
structure WrittenExactly (outputDir : Path) (files : List (Path × Bytes))
    (writes : List WriteRequest) : Prop where
  exact : ∀ request, request ∈ writes →
    ∃ file, file ∈ files ∧ request = requestOf outputDir file
  all : ∀ file, file ∈ files → requestOf outputDir file ∈ writes

/-- Whatever the disk does, a run that finishes has written exactly the files. -/
def OkMeansWritten (overflowChecks : Bool) (files : List (Path × Bytes))
    (packets : List (UInt64 × Bytes)) : Prop :=
  ∀ (disk : Disk) (outputDir : Path) (total : Nat),
    (directReceive overflowChecks disk outputDir packets).outcome = .ok total →
    WrittenExactly outputDir files
      (directReceive overflowChecks disk outputDir packets).submitted

def arrivedStream (arrivals : List (UInt64 × Bytes)) : Bytes :=
  arrivals.flatMap (fun arrival => arrival.2.drop RudpHeader.SIZE)

/-- The stream consists of these blocks, each behind its length, and of a rest
that does not start with another one. -/
def FramedAs (stream : Bytes) (blocks : List Bytes) : Prop :=
  (∀ block, block ∈ blocks → block.length + 8 < 2 ^ 64) ∧
    ∃ rest, stream = blocks.flatMap frame ++ rest ∧
      ∀ block more, block.length + 8 < 2 ^ 64 → rest ≠ frame block ++ more

def Unreadable (overflowChecks : Bool) (blocks : List Bytes) : Prop :=
  ∃ block, block ∈ blocks ∧
    ∃ fault, unpackEntries overflowChecks { id := 0, data := block } = .error fault

/-- Every split entry is a part of a file as it was cut for sending. -/
def OwnParts (files : List (Path × Bytes)) (entries : List (FileEntry × Bytes)) : Prop :=
  ∀ received, received ∈ entries → received.1.totalParts ≠ 1 →
    receivedPart received ∈ files.flatMap fileParts

/-- The entries carry nothing but the files, and all of them: each in one piece,
or all the parts of a large one. -/
structure Intact (files : List (Path × Bytes)) (entries : List (FileEntry × Bytes)) : Prop where
  whole : ∀ received, received ∈ entries → received.1.totalParts = 1 →
    (received.1.path, received.2) ∈ files
  parts : OwnParts files entries
  covered : ∀ file, file ∈ files →
    (∃ received, received ∈ entries ∧ received.1.totalParts = 1 ∧
      (received.1.path, received.2) = file) ∨
    (BLOCK_SIZE < file.2.length ∧
      ∀ part, part ∈ fileParts file → part ∈ entries.map receivedPart)

/-- Packets drawn from those of a list of blocks hand over their payloads, in
order of arrival. -/
theorem dataTx_of_drawn (tsUs : Nat → UInt64) (blocks : List Bytes)
    (arrivals after : List (UInt64 × Bytes))
    (fromSender : ∀ arrival, arrival ∈ arrivals → arrival.2 ∈ directPackets tsUs blocks) :
    ∃ accepted : Receiver, accepted.sessionId = 1 ∧
      accepted.dataTx.flatten = arrivedStream arrivals ∧
      receivePackets (Receiver.new 1 0) (arrivals ++ after) = receivePackets accepted after := by
  obtain ⟨pieces, arrived, drawn⟩ :
      ∃ pieces : List (Bytes × Nat), arrivals.map Prod.snd =
          pieces.map (fun piece => directDatagram piece.2 (tsUs piece.2) piece.1) ∧
        ∀ piece, piece ∈ pieces → piece ∈ (framedPieces blocks).zipIdx := by
    induction arrivals with
    | nil => exact ⟨[], rfl, fun _ member => absurd member List.not_mem_nil⟩
    | cons arrival arrivals ih =>
        obtain ⟨pieces, arrived, drawn⟩ :=
          ih (fun other member => fromSender other (List.mem_cons_of_mem _ member))
        have first := fromSender arrival List.mem_cons_self
        rw [directPackets_eq] at first
        obtain ⟨piece, inPieces, built⟩ := List.mem_map.mp first
        refine ⟨piece :: pieces, by rw [List.map_cons, List.map_cons, arrived, built], ?_⟩
        intro other member
        rcases List.mem_cons.mp member with isFirst | later
        · rw [isFirst]
          exact inPieces
        · exact drawn other later
  have short : ∀ piece, piece ∈ pieces → piece.1.length ≤ MAX_PAYLOAD := by
    intro piece member
    exact (length_framedPieces blocks piece.1 (List.fst_mem_of_mem_zipIdx (drawn piece member))).2
  obtain ⟨accepted, session, delivered, continues⟩ :=
    receivePackets_data (Receiver.new 1 0) rfl arrivals pieces tsUs short arrived after
  refine ⟨accepted, session, ?_, continues⟩
  have payloads : arrivals.map (fun arrival => arrival.2.drop RudpHeader.SIZE) =
      pieces.map Prod.fst := by
    have dropped := congrArg (List.map (fun packet => packet.drop RudpHeader.SIZE)) arrived
    rw [List.map_map, List.map_map] at dropped
    refine dropped.trans (List.map_congr_left ?_)
    intro piece member
    obtain ⟨_, _, _, _, payload⟩ :=
      readFrom_directDatagram piece.2 (tsUs piece.2) piece.1 (short piece member)
    exact payload
  rw [delivered, arrivedStream, List.flatMap_def, payloads]
  rfl

theorem extract_of_framedAs {stream : Bytes} {blocks : List Bytes}
    (framed : FramedAs stream blocks) : (extract nextBlock stream).1 = blocks := by
  obtain ⟨fits, rest, rfl, noMore⟩ := framed
  have waits : nextBlock rest = none := by
    cases found : nextBlock rest with
    | none => rfl
    | some next =>
        obtain ⟨cut, blockFits⟩ := eq_frame_of_nextBlock found
        exact absurd cut (noMore next.1 next.2 blockFits)
  rw [steady_nextBlock.extract_append, extract_frames blocks fits, List.nil_append,
    extract_of_none waits, List.append_nil]

theorem exists_framedAs (stream : Bytes) : ∃ blocks, FramedAs stream blocks := by
  obtain ⟨cut, fits⟩ := eq_frames_of_extract stream
  refine ⟨(extract nextBlock stream).1, fits, (extract nextBlock stream).2, cut, ?_⟩
  intro block more blockFits starts
  have waits := steady_nextBlock.next_left stream
  rw [starts, nextBlock_frame block more blockFits] at waits
  cases waits

theorem directReceive_of_drawn (overflowChecks : Bool) (disk : Disk) (outputDir : Path)
    (tsUs : Nat → UInt64) (files : List (Path × Bytes)) (arrivals after : List (UInt64 × Bytes))
    (finUs finTs : UInt64) (finSeq : Nat)
    (fromSender : ∀ arrival, arrival ∈ arrivals → arrival.2 ∈ sentPackets tsUs files)
    {blocks : List Bytes} (framed : FramedAs (arrivedStream arrivals) blocks) :
    directReceive overflowChecks disk outputDir
        (arrivals ++ (finUs, finDatagram finSeq finTs) :: after) =
      receiveAndWrite overflowChecks disk outputDir blocks := by
  obtain ⟨accepted, session, delivered, continues⟩ := dataTx_of_drawn tsUs _ arrivals
    ((finUs, finDatagram finSeq finTs) :: after) fromSender
  rw [directReceive, continues, receivePackets_fin accepted session,
    (Reassembler.run_spec _).1, delivered, extract_of_framedAs framed]

/-! ### What the entries complete -/

theorem run_filter_split (entries : List (FileEntry × Bytes)) :
    (run entries).partialFiles =
        (run (entries.filter (fun received => received.1.totalParts ≠ 1))).partialFiles ∧
      ∀ file, file ∈ (run entries).completed ↔
        (∃ received, received ∈ entries ∧ received.1.totalParts = 1 ∧
          (received.1.path, received.2) = file) ∨
        file ∈ (run (entries.filter (fun received => received.1.totalParts ≠ 1))).completed := by
  induction entries using List.reverseRecOn with
  | nil =>
      refine ⟨rfl, fun file => ⟨Or.inr, ?_⟩⟩
      intro either
      rcases either with ⟨_, member, _⟩ | completed
      · cases member
      · exact completed
  | append_singleton entries last ih =>
      obtain ⟨samePartials, completedIff⟩ := ih
      rw [List.filter_append, List.filter_cons, run_snoc]
      by_cases whole : last.1.totalParts = 1
      · rw [if_neg (by rw [decide_eq_true_iff]; exact fun split => split whole),
          List.filter_nil, List.append_nil, absorb, acceptEntry_unsplit _ _ whole]
        refine ⟨samePartials, ?_⟩
        intro file
        change file ∈ (run entries).completed ++ [(last.1.path, last.2)] ↔ _
        rw [List.mem_append, completedIff, List.mem_singleton]
        constructor
        · intro either
          rcases either with (⟨received, member, facts⟩ | completed) | isLast
          · exact Or.inl ⟨received, List.mem_append_left _ member, facts⟩
          · exact Or.inr completed
          · exact Or.inl ⟨last, List.mem_append_right _ List.mem_cons_self, whole, isLast.symm⟩
        · intro either
          rcases either with ⟨received, member, isWhole, isFile⟩ | completed
          · rcases List.mem_append.mp member with earlier | isLast
            · exact Or.inl (Or.inl ⟨received, earlier, isWhole, isFile⟩)
            · rw [List.mem_singleton.mp isLast] at isFile
              exact Or.inr isFile.symm
          · exact Or.inl (Or.inr completed)
      · rw [if_pos (by rw [decide_eq_true_iff]; exact whole), List.filter_nil, run_snoc, absorb,
          absorb, samePartials]
        refine ⟨rfl, ?_⟩
        intro file
        dsimp only
        rw [List.mem_append, List.mem_append, completedIff]
        constructor
        · intro either
          rcases either with (⟨received, member, facts⟩ | completed) | now
          · exact Or.inl ⟨received, List.mem_append_left _ member, facts⟩
          · exact Or.inr (Or.inl completed)
          · exact Or.inr (Or.inr now)
        · intro either
          rcases either with ⟨received, member, isWhole, isFile⟩ | completed | now
          · rcases List.mem_append.mp member with earlier | isLast
            · exact Or.inl (Or.inl ⟨received, earlier, isWhole, isFile⟩)
            · rw [List.mem_singleton.mp isLast] at isWhole
              exact absurd isWhole whole
          · exact Or.inl (Or.inr completed)
          · exact Or.inr now

section OwnEntries

variable {files : List (Path × Bytes)} (distinct : (files.map fileKey).Nodup)
  (fewParts : ∀ file, file ∈ files → (filePieces file).length < 2 ^ 32)
  {entries : List (FileEntry × Bytes)}

include distinct fewParts

theorem part_eq_of_key {part other : Part} (ofFiles : part ∈ files.flatMap fileParts)
    (otherOfFiles : other ∈ files.flatMap fileParts)
    (sameKey : components part.path = components other.path)
    (sameIndex : part.index = other.index) : part = other := by
  obtain ⟨file, member, ofFile⟩ := List.mem_flatMap.mp ofFiles
  obtain ⟨second, secondMember, ofSecond⟩ := List.mem_flatMap.mp otherOfFiles
  rw [fileParts_path file part ofFile, fileParts_path second other ofSecond] at sameKey
  obtain rfl := List.inj_on_of_nodup_map distinct member secondMember sameKey
  rcases fileParts_cases file part (fewParts file member) ofFile with
    ⟨small, rfl⟩ | ⟨large, index, data, placed, rfl⟩
  · rcases fileParts_cases file other (fewParts file member) ofSecond with
      ⟨_, rfl⟩ | ⟨large, _⟩
    · rfl
    · exact absurd large small
  · rcases fileParts_cases file other (fewParts file member) ofSecond with
      ⟨small, _⟩ | ⟨_, otherIndex, otherData, otherPlaced, rfl⟩
    · exact absurd large small
    · change index = otherIndex at sameIndex
      rw [← sameIndex, placed] at otherPlaced
      cases otherPlaced
      rw [sameIndex]

theorem partsInRange_of_own {completion : Completion}
    (own : ∀ received, received ∈ completion.done ++ [completion.received] →
      receivedPart received ∈ files.flatMap fileParts)
    {file : Path × Bytes} (member : file ∈ files)
    (sameKey : components completion.received.1.path = fileKey file)
    (large : BLOCK_SIZE < file.2.length)
    (total : completion.received.1.totalParts = (filePieces file).length) :
    completion.PartsInRange := by
  have follows := follows_run files distinct fewParts completion.done
    (fun received inDone => own received (List.mem_append_left _ inDone))
  constructor
  · rw [Completion.held, heldFile]
    cases found : (run completion.done).partialFiles.lookup
        (components completion.received.1.path) with
    | none => rfl
    | some unfinished =>
        obtain ⟨other, otherMember, otherKey, _, counted⟩ := follows.totals _ unfinished found
        rw [sameKey] at otherKey
        rw [List.inj_on_of_nodup_map distinct otherMember member otherKey, ← total] at counted
        exact counted
  · intro index present
    obtain ⟨piece, found⟩ := Option.isSome_iff_exists.mp present
    obtain ⟨item, inSeen, itemKey, rfl, _⟩ := fromReceived_heldFile completion.received
      (fun key unfinished => fromReceived_run completion.done key unfinished) index piece found
    obtain ⟨other, otherMember, ofOther⟩ := List.mem_flatMap.mp (own item inSeen)
    have otherKey : fileKey other = fileKey file := by
      rw [← sameKey, ← itemKey, fileKey, ← fileParts_path other _ ofOther]
      rfl
    obtain rfl := List.inj_on_of_nodup_map distinct otherMember member otherKey
    rcases fileParts_cases other _ (fewParts other member) ofOther with
      ⟨small, _⟩ | ⟨_, _, _, placed, built⟩
    · exact absurd large small
    · have sameIndex : item.1.partIndex = _ := congrArg Part.index built
      rw [total, sameIndex]
      exact (List.getElem?_eq_some_iff.mp placed).1

theorem parts_of_completed
    (own : ∀ received, received ∈ entries → receivedPart received ∈ files.flatMap fileParts)
    {file : Path × Bytes} (done : file ∈ (run entries).completed) (part : Part)
    (ofFile : part ∈ fileParts file) : part ∈ entries.map receivedPart := by
  have member := (follows_run files distinct fewParts entries own).exact file done
  rw [completed_run] at done
  obtain ⟨completion, isCompletion, rfl⟩ := List.mem_map.mp done
  obtain ⟨⟨rest, split⟩, _⟩ := (mem_completions entries completion).mp isCompletion
  have seen : ∀ received, received ∈ completion.done ++ [completion.received] →
      received ∈ entries := by
    intro received before
    rw [split, List.append_cons]
    exact List.mem_append_left rest before
  have ownSeen := fun received before => own received (seen received before)
  have last := ownSeen completion.received (List.mem_append_right _ List.mem_cons_self)
  have inFiles : part ∈ files.flatMap fileParts := List.mem_flatMap.mpr ⟨_, member, ofFile⟩
  have partPath := fileParts_path _ part ofFile
  obtain ⟨other, otherMember, ofOther⟩ := List.mem_flatMap.mp last
  have samePath := fileParts_path other _ ofOther
  have sameFile := List.inj_on_of_nodup_map distinct otherMember member
    (congrArg components samePath.symm)
  rw [sameFile] at ofOther
  -- a small file has one part, and the pieces of a large one were all collected
  rcases fileParts_cases _ _ (fewParts _ member) ofOther with
    ⟨small, built⟩ | ⟨large, index, data, placed, built⟩
  · rcases fileParts_cases _ part (fewParts _ member) ofFile with ⟨_, isWhole⟩ | ⟨large, _⟩
    · rw [isWhole, ← built]
      exact List.mem_map_of_mem (seen _ (List.mem_append_right _ List.mem_cons_self))
    · exact absurd large small
  · have total : completion.received.1.totalParts =
        (filePieces (completion.received.1.path, completion.bytes)).length :=
      congrArg Part.total built
    have several := one_lt_length_filePieces _ large
    have notOne : completion.received.1.totalParts ≠ 1 := by omega
    have whole := (Completion.writtenWhole_iff isCompletion notOne).mpr
      (partsInRange_of_own distinct fewParts ownSeen member rfl large total)
    rcases fileParts_cases _ part (fewParts _ member) ofFile with
      ⟨small, _⟩ | ⟨_, wanted, piece, wantedPlaced, rfl⟩
    · exact absurd large small
    · have within : wanted < completion.received.1.totalParts := by
        rw [total]
        exact (List.getElem?_eq_some_iff.mp wantedPlaced).1
      obtain ⟨item, inSeen, itemKey, itemIndex, _⟩ := whole.pieces wanted within
      rw [part_eq_of_key distinct fewParts inFiles (ownSeen item inSeen) itemKey.symm
        itemIndex.symm]
      exact List.mem_map_of_mem (seen item inSeen)

theorem mem_completed_iff (own : OwnParts files entries) (file : Path × Bytes) :
    file ∈ (run entries).completed ↔
      (∃ received, received ∈ entries ∧ received.1.totalParts = 1 ∧
        (received.1.path, received.2) = file) ∨
      (file ∈ files ∧ BLOCK_SIZE < file.2.length ∧
        ∀ part, part ∈ fileParts file → part ∈ entries.map receivedPart) := by
  have ownSplits : ∀ received,
      received ∈ entries.filter (fun received => received.1.totalParts ≠ 1) →
      receivedPart received ∈ files.flatMap fileParts := by
    intro received member
    obtain ⟨inEntries, split⟩ := List.mem_filter.mp member
    exact own received inEntries (of_decide_eq_true split)
  have follows := follows_run files distinct fewParts _ ownSplits
  rw [(run_filter_split entries).2 file]
  apply or_congr Iff.rfl
  constructor
  · intro done
    have member := follows.exact file done
    have seen := parts_of_completed distinct fewParts ownSplits done
    refine ⟨member, ?_, ?_⟩
    · apply Classical.byContradiction
      intro small
      have onlyPart : { path := file.1, index := 0, total := 1, data := file.2 } ∈
          fileParts file := by
        rw [fileParts, if_neg small]
        exact List.mem_cons_self
      obtain ⟨received, inSplits, built⟩ := List.mem_map.mp (seen _ onlyPart)
      exact of_decide_eq_true (List.mem_filter.mp inSplits).2 (congrArg Part.total built)
    · intro part ofFile
      obtain ⟨received, inSplits, built⟩ := List.mem_map.mp (seen part ofFile)
      exact List.mem_map.mpr ⟨received, (List.mem_filter.mp inSplits).1, built⟩
  · intro facts
    obtain ⟨member, large, seen⟩ := facts
    apply follows.mem_completed distinct file member (fewParts file member)
    intro part ofFile
    obtain ⟨received, inEntries, rfl⟩ := List.mem_map.mp (seen part ofFile)
    refine List.mem_map_of_mem (List.mem_filter.mpr ⟨inEntries, decide_eq_true ?_⟩)
    have several := one_lt_length_filePieces file large
    rcases fileParts_cases file _ (fewParts file member) ofFile with
      ⟨small, _⟩ | ⟨_, _, _, _, built⟩
    · exact absurd large small
    · have total : received.1.totalParts = (filePieces file).length := congrArg Part.total built
      omega

theorem intact_iff (own : OwnParts files entries) :
    Intact files entries ↔ ∀ file, file ∈ (run entries).completed ↔ file ∈ files := by
  constructor
  · intro intact file
    rw [mem_completed_iff distinct fewParts own]
    constructor
    · intro either
      rcases either with ⟨received, member, single, rfl⟩ | ⟨member, _⟩
      · exact intact.whole received member single
      · exact member
    · intro member
      rcases intact.covered file member with single | ⟨large, seen⟩
      · exact Or.inl single
      · exact Or.inr ⟨member, large, seen⟩
  · intro same
    refine ⟨?_, own, ?_⟩
    · intro received member single
      exact (same _).mp ((mem_completed_iff distinct fewParts own _).mpr
        (Or.inl ⟨received, member, single, rfl⟩))
    · intro file member
      rcases (mem_completed_iff distinct fewParts own file).mp ((same file).mpr member) with
        single | ⟨_, large, seen⟩
      · exact Or.inl single
      · exact Or.inr ⟨large, seen⟩

end OwnEntries

/-- Requests in the current directory show the path they were made from. -/
theorem requestOf_injective : Function.Injective (requestOf []) := by
  have joined : ∀ path, join [] path = path := by
    intro path
    unfold join
    split
    · rfl
    · rw [if_pos (Or.inl rfl), List.nil_append]
  intro file other same
  have samePath := congrArg WriteRequest.absPath same
  change join [] file.1 = join [] other.1 at samePath
  rw [joined, joined] at samePath
  exact Prod.ext samePath (congrArg WriteRequest.data same)

/-- A network that drops, repeats and reorders the packets.  The receiving side
looks at no sequence number, so what is written depends on the blocks that the
payloads happen to form in order of arrival: Ok means exactly the files sent when
one of these blocks cannot be read, or their entries carry the files and nothing
else.  The second condition is necessary too, unless an entry claims to be a part
of a split file that was never sent: such a part may be left over or replaced. -/
theorem okMeansWritten_of_intact (overflowChecks : Bool) (tsUs : Nat → UInt64)
    (files : List (Path × Bytes)) (distinct : (files.map fileKey).Nodup)
    (fewParts : ∀ file, file ∈ files → (filePieces file).length < 2 ^ 32)
    (arrivals after : List (UInt64 × Bytes)) (finUs finTs : UInt64) (finSeq : Nat)
    (fromSender : ∀ arrival, arrival ∈ arrivals → arrival.2 ∈ sentPackets tsUs files) :
    (∃ blocks, FramedAs (arrivedStream arrivals) blocks) ∧
    ∀ blocks, FramedAs (arrivedStream arrivals) blocks →
      (Unreadable overflowChecks blocks ∨ Intact files (decodedEntries overflowChecks blocks) →
        OkMeansWritten overflowChecks files
          (arrivals ++ (finUs, finDatagram finSeq finTs) :: after)) ∧
      (OwnParts files (decodedEntries overflowChecks blocks) →
        OkMeansWritten overflowChecks files
          (arrivals ++ (finUs, finDatagram finSeq finTs) :: after) →
        Unreadable overflowChecks blocks ∨
          Intact files (decodedEntries overflowChecks blocks)) := by
  refine ⟨exists_framedAs _, ?_⟩
  intro blocks framed
  have received := fun disk outputDir => directReceive_of_drawn overflowChecks disk outputDir
    tsUs files arrivals after finUs finTs finSeq fromSender framed
  constructor
  · intro condition disk outputDir total returned
    rw [received] at returned ⊢
    rcases condition with ⟨block, member, fault, unpacked⟩ | intact
    · obtain ⟨entries, decoded⟩ := decodable_of_ok overflowChecks disk outputDir blocks total
        returned block member
      rw [unpacked] at decoded
      cases decoded
    · have consumed := consumed_of_ok overflowChecks disk outputDir blocks total returned
      have same := (intact_iff distinct fewParts intact.parts).mp intact
      rw [(receiveAndWrite_of_consumed overflowChecks disk outputDir blocks consumed).1]
      refine ⟨?_, fun file member => List.mem_map_of_mem ((same file).mpr member)⟩
      intro request member
      obtain ⟨file, completed, built⟩ := List.mem_map.mp member
      exact ⟨file, (same file).mp completed, built.symm⟩
  · intro own always
    rcases unreadable_or_decodable overflowChecks blocks with unreadable | decodable
    · exact Or.inl unreadable
    · obtain ⟨total, returned⟩ :=
        receiveAndWrite_healthy workingDisk_healthy overflowChecks [] blocks decodable
      have written := always workingDisk [] total (by rw [received]; exact returned)
      rw [received, receiveAndWrite_submitted_healthy workingDisk_healthy] at written
      refine Or.inr ((intact_iff distinct fewParts own).mpr ?_)
      intro file
      constructor
      · intro completed
        obtain ⟨sent, member, same⟩ := written.exact _ (List.mem_map_of_mem completed)
        rw [requestOf_injective same]
        exact member
      · intro member
        obtain ⟨completed, inCompleted, same⟩ := List.mem_map.mp (written.all file member)
        rw [← requestOf_injective same]
        exact inCompleted

/-- The only packet of two files arrives twice. -/
def repeatedPacket : List (UInt64 × Bytes) :=
  (sentPackets (fun _ => 0) twoFiles ++ sentPackets (fun _ => 0) twoFiles).map
    (fun packet => (0, packet))

theorem okMeansWritten_repeatedPacket :
    OkMeansWritten true twoFiles (repeatedPacket ++ [(0, finDatagram 1 0)]) := by
  obtain ⟨_, exactly⟩ := okMeansWritten_of_intact true (fun _ => 0) twoFiles
    packable_twoFiles.distinct packable_twoFiles.fewParts repeatedPacket [] 0 0 1 (by
      intro arrival member
      obtain ⟨packet, sent, rfl⟩ := List.mem_map.mp member
      rcases List.mem_append.mp sent with first | second
      · exact first
      · exact second)
  have framed : FramedAs (arrivedStream repeatedPacket)
      ((packFiles twoFiles ++ packFiles twoFiles).map PackBlock.data) := by
    refine ⟨by decide +kernel, [], by decide +kernel, ?_⟩
    intro block more _ starts
    cases starts
  refine (exactly _ framed).1 (Or.inr ⟨by decide +kernel, ?_, by decide +kernel⟩)
  unfold OwnParts
  decide +kernel

/-- A file of 3000 bytes, and its three packets with the last two swapped. -/
def halves : List (Path × Bytes) := [([0x61], List.replicate 1500 1 ++ List.replicate 1500 2)]

def swappedPackets : List (UInt64 × Bytes) :=
  [0, 2, 1].filterMap (fun index =>
    ((sentPackets (fun _ => 0) halves)[index]?).map (fun packet => (0, packet)))

/-- Nothing is lost and nothing repeated, the call returns 3000 bytes, and the
file written is not the one sent. -/
theorem okMeansWritten_fails_when_swapped :
    ¬ ∀ (overflowChecks : Bool) (tsUs : Nat → UInt64) (files : List (Path × Bytes))
        (arrivals after : List (UInt64 × Bytes)) (finUs finTs : UInt64) (finSeq : Nat),
      Packable files →
      (∀ arrival, arrival ∈ arrivals → arrival.2 ∈ sentPackets tsUs files) →
      OkMeansWritten overflowChecks files
        (arrivals ++ (finUs, finDatagram finSeq finTs) :: after) := by
  intro always
  have packable : Packable halves :=
    ⟨by decide +kernel, by decide +kernel, by decide +kernel, by decide +kernel⟩
  have written := always true (fun _ => 0) halves swappedPackets [] 0 0 3 packable (by
    intro arrival member
    obtain ⟨index, _, placed⟩ := List.mem_filterMap.mp member
    obtain ⟨packet, found, rfl⟩ := Option.map_eq_some_iff.mp placed
    exact List.mem_of_getElem? found) workingDisk [0x6F] 3000 (by decide +kernel)
  exact absurd (written.all _ List.mem_cons_self) (by decide +kernel)

end Udpix.Cli
