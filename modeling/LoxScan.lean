import LoxScan.Main
import LoxScan.Stream
import LoxScan.Proofs.Faults
import LoxScan.Proofs.Printing
import LoxScan.Proofs.Tiling
import LoxScan.Proofs.Lookahead
import LoxScan.Proofs.Restart
import LoxScan.Proofs.Joining
import LoxScan.Proofs.Newline
import LoxScan.Proofs.Peeking
import LoxScan.Proofs.LineNumbers
import LoxScan.Proofs.Blanking
import LoxScan.Proofs.Lines
import LoxScan.Proofs.Echo
import LoxScan.Proofs.LineByLine
import LoxScan.Proofs.Agreement
import LoxScan.Proofs.Unambiguous
import LoxScan.Proofs.Undecodable
import LoxScan.Proofs.NumberValues
import LoxScan.Proofs.NumberEchoes
import LoxScan.Proofs.LineEnds
import LoxScan.Proofs.Safety
