import ChatEmbed.FileTree
import ChatEmbed.Library
import ChatEmbed.Main
import ChatEmbed.Proofs.Attributes
import ChatEmbed.Proofs.Lines
import ChatEmbed.Proofs.Inheritance
import ChatEmbed.Proofs.Content
import ChatEmbed.Proofs.Paths
import ChatEmbed.Proofs.Inclusion
import ChatEmbed.Proofs.Independence
import ChatEmbed.Proofs.Locality
import ChatEmbed.Proofs.Engine
import ChatEmbed.Proofs.Blame
import ChatEmbed.Proofs.Json
import ChatEmbed.Proofs.Payload
import ChatEmbed.Proofs.Rendering
import ChatEmbed.Proofs.Schema
import ChatEmbed.Proofs.Spelling
import ChatEmbed.Proofs.History
import ChatEmbed.Proofs.Names
import ChatEmbed.Proofs.Chain
import ChatEmbed.Proofs.Depth
import ChatEmbed.Proofs.Kinds
import ChatEmbed.Proofs.Missing
import ChatEmbed.Proofs.Footprint
import ChatEmbed.Proofs.Standalone
import ChatEmbed.Proofs.Grouping
import ChatEmbed.Proofs.Neutral
import ChatEmbed.Proofs.Positions
import ChatEmbed.Proofs.Pointing
import ChatEmbed.Proofs.Tokens
import ChatEmbed.Proofs.Outcome
import ChatEmbed.Proofs.Reordering
import ChatEmbed.Proofs.Facts
import ChatEmbed.Proofs.Lacking
import ChatEmbed.Proofs.Comments
import ChatEmbed.Proofs.Classification
import ChatEmbed.Proofs.Numerals
import ChatEmbed.Proofs.Channels
import ChatEmbed.Proofs.Calendar
import ChatEmbed.Proofs.Timestamps
import ChatEmbed.Proofs.Declarations
import ChatEmbed.Proofs.Markers
import ChatEmbed.Proofs.NormalForms
import ChatEmbed.Proofs.Placeholders
import ChatEmbed.Proofs.Pruning
import ChatEmbed.Proofs.Insertion
import ChatEmbed.Proofs.Arguments
import ChatEmbed.Proofs.ColorLines
import ChatEmbed.Proofs.Program
import ChatEmbed.Proofs.Doubles
import ChatEmbed.Proofs.Grammar
import ChatEmbed.Proofs.Printing
import ChatEmbed.Proofs.Layout
