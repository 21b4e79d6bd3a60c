import RegisterMap.Text.Blank
import RegisterMap.Text.LetterCase
import RegisterMap.Text.Lines
import RegisterMap.Text.Quoted
import RegisterMap.Numeral.Printer
import RegisterMap.Numeral.Reader
import RegisterMap.Xml.NameChar
import RegisterMap.Device.Placeholder
import RegisterMap.Nim.Ident
import RegisterMap.Diagnostic.Logged
import RegisterMap.Diagnostic.Logger
import RegisterMap.Device.Members
import RegisterMap.Device.Validation
import RegisterMap.Device.AddressMap
import RegisterMap.Device.Flattening
import RegisterMap.Nim.TypeNames
import RegisterMap.Nim.NodeType
import RegisterMap.Nim.Module
import RegisterMap.Xml.Document
import RegisterMap.Xml.Encoding
import RegisterMap.Device.Reader
import RegisterMap.Device.Writer
import RegisterMap.CommandLine.Run
import RegisterMap.Main
import RegisterMap.Proofs.Outcome
import RegisterMap.Proofs.Device.Routes
import RegisterMap.Proofs.Device.MapAddresses
import RegisterMap.Proofs.Nim.Names
import RegisterMap.Proofs.Nim.Values
import RegisterMap.Proofs.Numeral.Digits
import RegisterMap.Proofs.Nim.Locations
import RegisterMap.Proofs.Nim.InstanceAddresses
import RegisterMap.Proofs.Nim.FirstDefinitions
import RegisterMap.Proofs.Nim.NodeTypes
import RegisterMap.Proofs.Nim.Assembly
import RegisterMap.Proofs.Nim.DeclaredBeforeUse
import RegisterMap.Proofs.Nim.TypedInstances
import RegisterMap.Proofs.Nim.Permissions
import RegisterMap.Proofs.Device.ExpandedAddresses
import RegisterMap.Proofs.Nim.Owners
import RegisterMap.Proofs.Device.DerivationOrder
import RegisterMap.Proofs.Device.MemberChains
import RegisterMap.Proofs.Device.DerivedMembers
import RegisterMap.Proofs.Device.Provenance
import RegisterMap.Proofs.Nim.Idents
import RegisterMap.Proofs.Nim.TypeIdents
import RegisterMap.Proofs.Nim.DeclaredTypes
import RegisterMap.Proofs.Nim.Existence
import RegisterMap.Proofs.Nim.SharedNames
import RegisterMap.Proofs.Nim.SharedTypes
import RegisterMap.Proofs.Nim.RepeatedEntries
import RegisterMap.Proofs.Nim.SharedOrigins
import RegisterMap.Proofs.Nim.StrictRuns
import RegisterMap.Proofs.Nim.LaterPeripherals
import RegisterMap.Proofs.Nim.FoldedNames
import RegisterMap.Proofs.Nim.NodeKinds
import RegisterMap.Proofs.Device.Everywhere
import RegisterMap.Proofs.Device.FlatDevices
import RegisterMap.Proofs.Nim.CheckedLayouts
import RegisterMap.Proofs.CommandLine.WrittenFiles
import RegisterMap.Proofs.Device.MapPaths
import RegisterMap.Proofs.CommandLine.Sessions
import RegisterMap.Proofs.Nim.NodeLookups
import RegisterMap.Proofs.Device.WrittenDevices
import RegisterMap.Proofs.Nim.RegisterNames
import RegisterMap.Proofs.Nim.PackedFields
import RegisterMap.Proofs.Nim.FieldIdents
import RegisterMap.Proofs.Device.DerivedHeaders
import RegisterMap.Proofs.Nim.ListNames
import RegisterMap.Proofs.Numeral.Notations
import RegisterMap.Proofs.Device.AddressLookups
import RegisterMap.Proofs.Device.ChainLengths
import RegisterMap.Proofs.Device.SiblingChains
import RegisterMap.Proofs.Device.ReferenceRemoval
import RegisterMap.Proofs.Device.DottedReferences
import RegisterMap.Proofs.Device.BitRanges
import RegisterMap.Proofs.Device.NodeNames
import RegisterMap.Proofs.Nim.PostOrder
import RegisterMap.Proofs.Device.HandedDown
import RegisterMap.Proofs.Device.MapDumps
import RegisterMap.Proofs.Nim.MergedNames
import RegisterMap.Proofs.Nim.MemberNames
import RegisterMap.Proofs.Nim.NamedValues
import RegisterMap.Proofs.Nim.InterruptLines
import RegisterMap.Proofs.Nim.InterruptNumbers
import RegisterMap.Proofs.Nim.IdentGrammar
import RegisterMap.Proofs.Nim.ClaimSequences
import RegisterMap.Proofs.Nim.TableHistories
