import ChipEight.Main
import ChipEight.Proofs.KeyWait
import ChipEight.Proofs.PersistentFaults
import ChipEight.Proofs.ProgramRuns
import ChipEight.Proofs.Subroutines
import ChipEight.Proofs.Window
import ChipEight.Proofs.Timekeeping
import ChipEight.Proofs.EarlyCycles
import ChipEight.Proofs.MemoryImage
import ChipEight.Proofs.Inlets
import ChipEight.Proofs.OutsideWorld
import ChipEight.Proofs.EndOfWait
import ChipEight.Proofs.ShiftChoice
import ChipEight.Proofs.Tracing
import ChipEight.Proofs.MemoryRequests
import ChipEight.Proofs.SpriteMasks
import ChipEight.Proofs.WriteSets
import ChipEight.Proofs.StraightLine
import ChipEight.Proofs.Collisions
import ChipEight.Proofs.Arithmetic
import ChipEight.Proofs.ControlFlow
import ChipEight.Proofs.ReadingBack
import ChipEight.Proofs.Classification
import ChipEight.Proofs.SavedRegisters
import ChipEight.Proofs.Numerals
import ChipEight.Proofs.KeyEvents
import ChipEight.Proofs.Disassembly
import ChipEight.Proofs.ComposedTexts
import ChipEight.Proofs.ErrorTexts
import ChipEight.Proofs.Dumps
