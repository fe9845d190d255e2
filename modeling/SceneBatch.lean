import SceneBatch.Device.Trace
import SceneBatch.Main
import SceneBatch.Model.Sample
import SceneBatch.Texture.Png
import SceneBatch.Proofs.Batch.Calls
import SceneBatch.Proofs.Batch.Drawing
import SceneBatch.Proofs.Batch.Failure
import SceneBatch.Proofs.Batch.Growth
import SceneBatch.Proofs.Batch.Influence
import SceneBatch.Proofs.Batch.Invariant
import SceneBatch.Proofs.Batch.Part
import SceneBatch.Proofs.Batch.Places
import SceneBatch.Proofs.Batch.Slots
import SceneBatch.Proofs.Batch.Staging
import SceneBatch.Proofs.Batch.Triangles
import SceneBatch.Proofs.Batch.Uniqueness
import SceneBatch.Proofs.Batch.Units
import SceneBatch.Proofs.Device.Capacity
import SceneBatch.Proofs.Device.Contents
import SceneBatch.Proofs.Device.Memory
import SceneBatch.Proofs.Device.Session
import SceneBatch.Proofs.Device.Upload
import SceneBatch.Proofs.Frame.Assets
import SceneBatch.Proofs.Frame.Building
import SceneBatch.Proofs.Frame.Draft
import SceneBatch.Proofs.Frame.Independence
import SceneBatch.Proofs.Frame.Palette
import SceneBatch.Proofs.Frame.Skinning
import SceneBatch.Proofs.Frame.Skipping
import SceneBatch.Proofs.Frame.Units
import SceneBatch.Proofs.Frame.Walk
import SceneBatch.Proofs.Texture.Binding
import SceneBatch.Proofs.Texture.Loading
import SceneBatch.Proofs.Traverse
import SceneBatch.Proofs.Frame.Loads
import SceneBatch.Proofs.Texture.Layers
import SceneBatch.Proofs.Frame.Replacement
import SceneBatch.Proofs.Texture.Origin
import SceneBatch.Proofs.World.Store
import SceneBatch.Proofs.World.Maps
import SceneBatch.Proofs.World.History
import SceneBatch.Proofs.World.Calls
import SceneBatch.Proofs.World.Identifiers
import SceneBatch.Proofs.World.Components
import SceneBatch.Proofs.World.Queries
import SceneBatch.Proofs.Frame.Taking
import SceneBatch.Proofs.Render.Config
import SceneBatch.Proofs.Render.Sizes
import SceneBatch.Proofs.Batch.Layout
import SceneBatch.Proofs.Animation.Hierarchy
import SceneBatch.Proofs.Animation.Keys
import SceneBatch.Proofs.Animation.Channels
import SceneBatch.Proofs.Animation.Extraction
import SceneBatch.Proofs.Frame.Budgets
import SceneBatch.Proofs.Number.Exact
import SceneBatch.Proofs.Number.Order
import SceneBatch.Proofs.Animation.Duration
import SceneBatch.Proofs.Animation.Looping
import SceneBatch.Proofs.Animation.Sampling
import SceneBatch.Proofs.Toml.Keys
import SceneBatch.Proofs.Scene.Loading
import SceneBatch.Proofs.Render.Lights
import SceneBatch.Proofs.Texture.Naming
import SceneBatch.Proofs.Device.Readback
import SceneBatch.Proofs.Model.Packing
