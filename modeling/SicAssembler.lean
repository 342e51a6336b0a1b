import SicAssembler.Main
import SicAssembler.Sidecar.Reader
import SicAssembler.Proofs.Addressing
import SicAssembler.Proofs.GreedyPacking
import SicAssembler.Proofs.Tiling
import SicAssembler.Proofs.Faults
import SicAssembler.Proofs.Strictness
import SicAssembler.Proofs.Warnings
import SicAssembler.Proofs.Displacement
import SicAssembler.Proofs.DisplacedRecords
import SicAssembler.Proofs.Relocation
import SicAssembler.Proofs.Numeral
import SicAssembler.Proofs.ObjectText
import SicAssembler.Proofs.RecordFormat
import SicAssembler.Proofs.AddressOrder
import SicAssembler.Proofs.ColumnPattern
import SicAssembler.Proofs.SourceLines
import SicAssembler.Proofs.FieldStyles
import SicAssembler.Proofs.Renaming
import SicAssembler.Proofs.Closing
import SicAssembler.Proofs.LinePrefixes
import SicAssembler.Proofs.ConsultedEntries
import SicAssembler.Proofs.TrailingLayout
import SicAssembler.Proofs.JsonText
import SicAssembler.Proofs.Renumbering
import SicAssembler.Proofs.SidecarText
import SicAssembler.Proofs.ColumnGrammar
import SicAssembler.Proofs.FirstDefinitions
import SicAssembler.Proofs.SidecarRows
import SicAssembler.Proofs.NumeralGrammar
import SicAssembler.Proofs.ConstantGrammar
import SicAssembler.Proofs.WordEncoding
import SicAssembler.Proofs.TableFormat
import SicAssembler.Proofs.ListingRows
import SicAssembler.Proofs.CommandRun
import SicAssembler.Proofs.MachineWords
import SicAssembler.Proofs.AddressArithmetic
