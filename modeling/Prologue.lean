import Prologue.CommandLine
import Prologue.Encoding.Snapshot
import Prologue.Encoding.SourceFile
import Prologue.Main
import Prologue.Proofs.Place
import Prologue.Proofs.Dispatch
import Prologue.Proofs.Reports
import Prologue.Proofs.Tallies
import Prologue.Proofs.Sides
import Prologue.Proofs.Placement
import Prologue.Proofs.Surroundings
import Prologue.Proofs.Layout
import Prologue.Proofs.BlankLines
import Prologue.Proofs.Siblings
import Prologue.Proofs.Hoisting
import Prologue.Proofs.Scopes
import Prologue.Proofs.LineShift
import Prologue.Proofs.Validation
import Prologue.Proofs.SyntaxFaults
import Prologue.Proofs.ConfigWriting
import Prologue.Proofs.OptionSchema
import Prologue.Proofs.Numerals
import Prologue.Proofs.Spellings
import Prologue.Proofs.Escapes
import Prologue.Proofs.Rounding
import Prologue.Proofs.RadixLiterals
import Prologue.Proofs.Paths
import Prologue.Proofs.Ancestors
import Prologue.Proofs.Discovery
import Prologue.Proofs.Walks
import Prologue.Proofs.Outlines
import Prologue.Proofs.Runs
import Prologue.Proofs.Severities
import Prologue.Proofs.ArgumentRoles
import Prologue.Proofs.CommandItems
import Prologue.Proofs.Excerpts
import Prologue.Proofs.Extensions
import Prologue.Proofs.Languages
