/-
A whole transfer in RUDP mode.

The blocks go to the sender, which cuts them to packet size; the receiver hands
each payload over on its own, and the writer unpacks each payload as a block.
Nothing in between marks where a block ends, so a block comes through only when
it fits one packet.
-/

import Udpix.Cli.DirectTransfer
import Udpix.IoEngine.Truncation
import Udpix.Protocol.InFlight

namespace Udpix.Cli

open Chunks Protocol Sender DirectSend IoEngine Packer AsyncWriter UnixPath

/-- The sender after the `SendChunk` commands, each with the time it is
handled. -/
def enqueueBlocks (tsUs : Nat → UInt64) (sender : Sender)
    (commands : List (Instant × Bytes)) : Sender :=
  commands.foldl (fun state command => state.enqueueData tsUs command.1 command.2) sender

def enqueuedDatagrams (sender : Sender) : List Bytes :=
  (List.range sender.nextSeq).filterMap
    (fun seq => (sender.inFlight.lookup seq).map InFlightEntry.datagram)

def rudpReceive (overflowChecks : Bool) (disk : Disk) (outputDir : Path)
    (arrivals : List (UInt64 × Bytes)) : WriterRun :=
  receiveAndWrite overflowChecks disk outputDir
    (receivePackets (Receiver.new 1 0) arrivals).dataTx

/-! ### What the receiver hands over -/

theorem tracks_enqueueBlocks {tsUs : Nat → UInt64} {pieces : List Bytes} {sender : Sender}
    (tracks : Tracks 1 tsUs pieces [] sender) (commands : List (Instant × Bytes)) :
    Tracks 1 tsUs (pieces ++ (commands.map Prod.snd).flatMap (chunks MAX_PAYLOAD)) []
      (enqueueBlocks tsUs sender commands) := by
  induction commands generalizing pieces sender with
  | nil =>
      rw [List.map_nil, List.flatMap_nil, List.append_nil]
      exact tracks
  | cons command rest ih =>
      rw [List.map_cons, List.flatMap_cons, ← List.append_assoc]
      exact ih (tracks.enqueueData command.1 command.2)

theorem enqueuedDatagrams_eq {tsUs : Nat → UInt64} {pieces : List Bytes} {sender : Sender}
    (tracks : Tracks 1 tsUs pieces [] sender) :
    enqueuedDatagrams sender =
      pieces.zipIdx.map (fun piece => directDatagram piece.2 (tsUs piece.2) piece.1) := by
  have held : ∀ seq, seq ∈ List.range sender.nextSeq →
      (sender.inFlight.lookup seq).map InFlightEntry.datagram =
        some (directDatagram seq (tsUs seq) (pieces.getD seq [])) := by
    intro seq member
    have isKey : seq ∈ sender.inFlight.keys := tracks.partition.symm.subset member
    obtain ⟨entry, found⟩ := (AssocMap.mem_keys_iff_lookup sender.inFlight seq).mp isKey
    obtain ⟨piece, placed, built⟩ := tracks.original seq entry found
    rw [found, Option.map_some, built, List.getD_eq_getElem?_getD, placed]
    rfl
  have mapped : enqueuedDatagrams sender = (List.range pieces.length).map
      (fun seq => directDatagram seq (tsUs seq) (pieces.getD seq [])) := by
    unfold enqueuedDatagrams
    rw [← tracks.counted, ← List.filterMap_eq_map]
    exact List.filterMap_congr held
  rw [mapped]
  apply List.ext_getElem?
  intro seq
  rw [List.getElem?_map, List.getElem?_map, List.getElem?_zipIdx]
  by_cases within : seq < pieces.length
  · rw [List.getElem?_range within, List.getElem?_eq_getElem within, Option.map_some,
      Option.map_some, Option.map_some, List.getD_eq_getElem _ _ within, Nat.zero_add]
  · rw [List.getElem?_eq_none (by rw [List.length_range]; omega),
      List.getElem?_eq_none (by omega)]
    rfl

/-- The pieces of the blocks reach the writer one by one. -/
theorem rudpReceive_eq (overflowChecks : Bool) (disk : Disk) (outputDir : Path)
    (tsUs : Nat → UInt64) (started : Instant) (commands : List (Instant × Bytes))
    (arrivals after : List (UInt64 × Bytes)) (finUs finTs : UInt64) (finSeq : Nat)
    (inOrder : arrivals.map Prod.snd =
      enqueuedDatagrams (enqueueBlocks tsUs (Sender.new 1 started) commands)) :
    rudpReceive overflowChecks disk outputDir
        (arrivals ++ (finUs, finDatagram finSeq finTs) :: after) =
      receiveAndWrite overflowChecks disk outputDir
        ((commands.map Prod.snd).flatMap (chunks MAX_PAYLOAD)) := by
  have fresh : Tracks 1 tsUs [] [] (Sender.new 1 started) := tracks_new started
  have tracks := tracks_enqueueBlocks fresh commands
  rw [List.nil_append] at tracks
  rw [enqueuedDatagrams_eq tracks] at inOrder
  have short : ∀ piece,
      piece ∈ ((commands.map Prod.snd).flatMap (chunks MAX_PAYLOAD)).zipIdx →
        piece.1.length ≤ MAX_PAYLOAD := by
    intro piece member
    obtain ⟨block, _, inChunks⟩ := List.mem_flatMap.mp (List.fst_mem_of_mem_zipIdx member)
    exact (length_of_mem_chunks MAX_PAYLOAD MAX_PAYLOAD_pos block piece.1 inChunks).2
  obtain ⟨accepted, session, delivered, continues⟩ := receivePackets_data (Receiver.new 1 0) rfl
    arrivals _ tsUs short inOrder ((finUs, finDatagram finSeq finTs) :: after)
  rw [List.zipIdx_map_fst] at delivered
  unfold rudpReceive
  rw [continues, receivePackets_fin accepted session, delivered]
  rfl

/-! ### When the files come through -/

/-- The writer returns, and its requests are exactly the files. -/
def Delivers (written : WriterRun) (outputDir : Path) (files : List (Path × Bytes)) : Prop :=
  (∃ total, written.outcome = .ok total) ∧
    written.submitted.Perm (files.map (requestOf outputDir))

theorem blocks_le_MAX_PAYLOAD_iff (files : List (Path × Bytes))
    (storable : ∀ file, file ∈ files → Storable file.1) :
    (∀ layout, layout ∈ packLayouts files → layout.block.data.length ≤ MAX_PAYLOAD) ↔
      oneBlockLength files ≤ MAX_PAYLOAD :=
  blocks_le_iff MAX_PAYLOAD (by decide) (by decide) files storable

theorem packable_of_fits (files : List (Path × Bytes))
    (storable : ∀ file, file ∈ files → Storable file.1)
    (distinct : (files.map fileKey).Nodup) (fits : oneBlockLength files ≤ MAX_PAYLOAD) :
    Packable files where
  storable := storable
  distinct := distinct
  fewEntries := by
    intro layout member
    have within := (blocks_le_MAX_PAYLOAD_iff files storable).mpr fits layout member
    have lengthEq := block_length layout (packLayouts_wellFormed files layout member)
      (storable_of_mem_packLayouts storable layout member)
    have perEntry : layout.entries.length ≤ (layout.parts.map partWeight).sum := by
      have counted := List.length_le_sum_of_one_le (layout.parts.map partWeight) (by
        intro weight inWeights
        obtain ⟨part, _, built⟩ := List.mem_map.mp inWeights
        rw [← built]
        unfold partWeight
        omega)
      rw [List.length_map] at counted
      unfold Layout.parts at counted ⊢
      rw [List.length_map] at counted
      exact counted
    unfold MAX_PAYLOAD at within
    omega
  fewParts := by
    intro file member
    have fileLe : 26 + file.1.length + file.2.length ≤
        (files.map (fun other => 26 + other.1.length + other.2.length)).sum :=
      List.single_le_sum (fun _ _ => Nat.zero_le _) _ (List.mem_map_of_mem member)
    unfold oneBlockLength MAX_PAYLOAD at fits
    unfold filePieces
    rw [length_chunks BLOCK_SIZE BLOCK_SIZE_pos]
    apply Nat.lt_of_le_of_lt (Nat.div_le_self _ _)
    unfold BLOCK_SIZE
    omega

theorem pieces_of_fits (files : List (Path × Bytes))
    (storable : ∀ file, file ∈ files → Storable file.1)
    (fits : oneBlockLength files ≤ MAX_PAYLOAD) :
    ((packFiles files).map PackBlock.data).flatMap (chunks MAX_PAYLOAD) =
      (packFiles files).map PackBlock.data := by
  have uncut : ∀ block, block ∈ (packFiles files).map PackBlock.data →
      chunks MAX_PAYLOAD block = [block] := by
    intro block drawn
    obtain ⟨layout, member, sameData⟩ := mem_data_packFiles block drawn
    have within := (blocks_le_MAX_PAYLOAD_iff files storable).mpr fits layout member
    have lengthEq := block_length layout (packLayouts_wellFormed files layout member)
      (storable_of_mem_packLayouts storable layout member)
    rw [← sameData]
    apply chunks_of_length_le
    · apply List.ne_nil_of_length_pos
      omega
    · exact within
  rw [List.flatMap_congr uncut]
  exact List.flatMap_singleton' _

theorem delivers_of_fits (overflowChecks : Bool) (disk : Disk) (healthy : disk.Healthy)
    (outputDir : Path) (files : List (Path × Bytes))
    (storable : ∀ file, file ∈ files → Storable file.1)
    (distinct : (files.map fileKey).Nodup) (fits : oneBlockLength files ≤ MAX_PAYLOAD) :
    Delivers (receiveAndWrite overflowChecks disk outputDir
      (((packFiles files).map PackBlock.data).flatMap (chunks MAX_PAYLOAD))) outputDir files := by
  have packable := packable_of_fits files storable distinct fits
  have drawn : ∀ chunk, chunk ∈ (packFiles files).map PackBlock.data →
      chunk ∈ (packFiles files).map PackBlock.data := fun _ member => member
  have decodable := decodable_of_drawn packable overflowChecks drawn
  rw [pieces_of_fits files storable fits]
  refine ⟨receiveAndWrite_healthy healthy overflowChecks outputDir _ decodable, ?_⟩
  exact (submitted_perm_of_once packable overflowChecks drawn disk outputDir
    (consume_finishes healthy calm_start overflowChecks outputDir _ decodable)
    (List.Perm.refl _)).1

/-- The first piece of a larger block does not unpack, and the writer returns
its error. -/
theorem fits_of_returns (overflowChecks : Bool) (disk : Disk) (outputDir : Path)
    (files : List (Path × Bytes)) (storable : ∀ file, file ∈ files → Storable file.1)
    (fewEntries : ∀ layout, layout ∈ packLayouts files → layout.entries.length < 2 ^ 32)
    (total : Nat)
    (returned : (receiveAndWrite overflowChecks disk outputDir
      (((packFiles files).map PackBlock.data).flatMap
        (chunks MAX_PAYLOAD))).outcome = .ok total) :
    oneBlockLength files ≤ MAX_PAYLOAD := by
  apply (blocks_le_MAX_PAYLOAD_iff files storable).mp
  intro layout member
  apply Nat.le_of_not_lt
  intro oversized
  have nonempty : layout.block.data ≠ [] := List.ne_nil_of_length_pos (by omega)
  have inPieces : layout.block.data.take MAX_PAYLOAD ∈
      ((packFiles files).map PackBlock.data).flatMap (chunks MAX_PAYLOAD) := by
    refine List.mem_flatMap.mpr ⟨layout.block.data,
      List.mem_map_of_mem (List.mem_map_of_mem member), ?_⟩
    rw [chunks_of_ne_nil MAX_PAYLOAD MAX_PAYLOAD_pos _ nonempty]
    exact List.mem_cons_self
  obtain ⟨entries, unpacked⟩ := decodable_of_ok overflowChecks disk outputDir _ total returned
    _ inPieces
  exact unpackEntries_take overflowChecks layout (packLayouts_wellFormed files layout member)
    (fewEntries layout member) (storable_of_mem_packLayouts storable layout member)
    MAX_PAYLOAD oversized (by decide) entries unpacked

/-- RUDP mode delivers the files exactly when a block with all of them fits one
packet.  The second half assumes what the 32-bit entry count of a block can
express. -/
theorem rudpReceive_delivers_iff (overflowChecks : Bool) (disk : Disk) (healthy : disk.Healthy)
    (outputDir : Path) (files : List (Path × Bytes))
    (storable : ∀ file, file ∈ files → Storable file.1)
    (distinct : (files.map fileKey).Nodup)
    (tsUs : Nat → UInt64) (started : Instant) (commands : List (Instant × Bytes))
    (sent : commands.map Prod.snd = (packFiles files).map PackBlock.data)
    (arrivals after : List (UInt64 × Bytes)) (finUs finTs : UInt64) (finSeq : Nat)
    (inOrder : arrivals.map Prod.snd =
      enqueuedDatagrams (enqueueBlocks tsUs (Sender.new 1 started) commands)) :
    (oneBlockLength files ≤ 1443 →
      Delivers (rudpReceive overflowChecks disk outputDir
        (arrivals ++ (finUs, finDatagram finSeq finTs) :: after)) outputDir files) ∧
    ((∀ layout, layout ∈ packLayouts files → layout.entries.length < 2 ^ 32) →
      Delivers (rudpReceive overflowChecks disk outputDir
        (arrivals ++ (finUs, finDatagram finSeq finTs) :: after)) outputDir files →
      oneBlockLength files ≤ 1443) := by
  rw [rudpReceive_eq overflowChecks disk outputDir tsUs started commands arrivals after finUs
    finTs finSeq inOrder, sent]
  constructor
  · intro fits
    exact delivers_of_fits overflowChecks disk healthy outputDir files storable distinct fits
  · intro fewEntries delivers
    obtain ⟨total, returned⟩ := delivers.1
    exact fits_of_returns overflowChecks disk outputDir files storable fewEntries total returned

/-- Every datagram of the files' blocks, at time zero and in order, then FIN. -/
def losslessArrivals (files : List (Path × Bytes)) : List (UInt64 × Bytes) :=
  (enqueuedDatagrams (enqueueBlocks (fun _ => 0) (Sender.new 1 0)
    ((packFiles files).map (fun block => (0, block.data))))).map (fun packet => (0, packet)) ++
      [(0, finDatagram 0 0)]

theorem rudpReceive_delivers_iff_twoFiles :
    Delivers (rudpReceive true workingDisk [0x6F] (losslessArrivals twoFiles)) [0x6F]
      twoFiles := by
  have sent : ((packFiles twoFiles).map
      (fun block => ((0 : Instant), block.data))).map Prod.snd =
        (packFiles twoFiles).map PackBlock.data := by
    rw [List.map_map]
    rfl
  have inOrder : ∀ packets : List Bytes,
      (packets.map (fun packet => ((0 : UInt64), packet))).map Prod.snd = packets := by
    intro packets
    rw [List.map_map]
    exact List.map_id _
  have settled := rudpReceive_delivers_iff true workingDisk workingDisk_healthy [0x6F] twoFiles
    packable_twoFiles.storable packable_twoFiles.distinct (fun _ => 0) 0 _ sent _ [] 0 0 0
    (inOrder _)
  unfold losslessArrivals
  exact settled.1 (by decide)

/-- One file, `a`, a little larger than a packet. -/
def largeFile : List (Path × Bytes) := [([0x61], List.replicate 1500 0)]

theorem rudpReceive_loses_largeFile :
    (∀ file, file ∈ largeFile → Storable file.1) ∧ (largeFile.map fileKey).Nodup ∧
      workingDisk.Healthy ∧
      ¬ Delivers (rudpReceive true workingDisk [0x6F] (losslessArrivals largeFile)) [0x6F]
        largeFile := by
  have storable : ∀ file, file ∈ largeFile → Storable file.1 := by
    intro file member
    rw [List.mem_singleton.mp member]
    decide
  refine ⟨storable, List.nodup_singleton _, workingDisk_healthy, ?_⟩
  intro delivers
  obtain ⟨total, returned⟩ := delivers.1
  unfold losslessArrivals at returned
  rw [rudpReceive_eq true workingDisk [0x6F] (fun _ => 0) 0
    ((packFiles largeFile).map (fun block => (0, block.data))) _ [] 0 0 0
    (by rw [List.map_map]; exact List.map_id _), List.map_map] at returned
  have fits := fits_of_returns true workingDisk [0x6F] largeFile storable (by decide +kernel)
    total returned
  revert fits
  decide +kernel

end Udpix.Cli
